import JoinBench.Address
import JoinBench.Docker.Body
import JoinBench.Docker.LogStream
import JoinBench.Host.Cluster

/-!
# Container hosts behind a docker daemon

What is asked of a container host is put to its daemon, as one request or as several in a row.
A refusal by the daemon fails the operation; a lost connection means that the host is gone.
-/

namespace JoinBench.Docker

open Http (Reply)

/-! ### Replies -/

/-- Whether a status can be that of the only response to a request: it has three digits, and it
does not announce another response. -/
def isFinal (status : Nat) : Bool :=
  status = 101 || (200 ≤ status && status < 1000)

/-- Whether a status tells of success: that nothing had to change counts as well, and so does a
change of protocols. -/
def isSuccess (status : Nat) : Bool :=
  (200 ≤ status && status < 300) || status = 304 || status = 101

/-- Whether a response of some status has no body, whatever comes behind it. -/
def isBodiless (status : Nat) : Bool :=
  status = 101 || status = 204 || status = 304

/-- The body of a reply that tells of success. -/
def bodyOf : Reply → Except Trouble (List UInt8)
  | .lost => .error (.lost "the daemon closed the connection")
  | .response status body =>
    if !isFinal status then .error (.lost "the daemon did not respond")
    else if isBodiless status then .ok []
    else if isSuccess status then .ok body
    else (refusalReason body).bind fun reason => .error (.refused status reason)

/-- The error that trouble with an operation is. -/
def Trouble.error (host : HostId) (operation : Operation) : Trouble → Error
  | lost reason => .connection host (operation.name ++ " failed: " ++ reason)
  | trouble => .runtime host operation trouble.message

/-- Sends a request and reads the body of the reply. -/
def exchange (host : HostId) (operation : Operation) (request : Http.Request)
  (read : Except Trouble (List UInt8) → Except Trouble α) : Program Http.interface Error α := do
  match read (bodyOf (← Http.send request)) with
  | .ok x => return x
  | .error trouble => throw (trouble.error host operation)

/-- Reads nothing from a body. -/
def ignoreBody (body : Except Trouble (List UInt8)) : Except Trouble Unit :=
  body.map fun _ => ()

/-- Takes it as done when what should be removed is not there. -/
def forgiveMissing : Except Trouble Unit → Except Trouble Unit
  | .error (.refused 404 _) => .ok ()
  | result => result

/-! ### Requests -/

/-- The version of the daemon's interface, which every path starts with. -/
def versionPath : String :=
  "/v1.49"

/-- A path of the daemon's interface without the version. -/
def withoutVersion (path : String) : String :=
  if versionPath.toList.isPrefixOf path.toList then
    String.ofList (path.toList.drop versionPath.length)
  else path

/-- The address of what the daemon has at a path. -/
def address (path : String) : Address :=
  .ofText (versionPath ++ path)

/-- The address of a container, or of something that belongs to it. -/
def containerAddress (unitId behind : String) : Address :=
  address ("/containers/" ++ unitId ++ behind)

/-- The address of an image, or of something that belongs to it. -/
def imageAddress (image : ImageRef) (behind : String) : Address :=
  address ("/images/" ++ image.display ++ behind)

/-- A truth value as a parameter. -/
def flag (value : Bool) : String :=
  if value then "true" else "false"

/-- A filter for containers that carry a label. -/
def labelFilter (label : String) : String :=
  (Json.object [("label", .list [.text label])]).compact

/-- Asks whether the daemon is there. -/
def pingRequest : Http.Request :=
  ⟨.get, (address "/_ping").path, [], none⟩

/-- Asks for the containers that carry a label, running or not. -/
def listRequest (label : String) : Http.Request :=
  ⟨.get, (address "/containers/json").path,
    [("all", "true"), ("filters", labelFilter label), ("size", "false")], none⟩

/-- Asks for a container under the name that is also its host name. -/
def createRequest (spec : LaunchSpec) : Http.Request :=
  let labels := Json.ofMembers (spec.labels.map fun label => (label, Json.text ""))
  ⟨.post, (address "/containers/create").path, [("name", spec.name), ("platform", "")],
    some (.object
      [("Cmd", .list (spec.command.map Json.text)),
       ("HostConfig", .object [("NetworkMode", .text networkMode)]),
       ("Hostname", .text spec.name),
       ("Image", .text spec.image.display),
       ("Labels", .object labels)])⟩

/-- Asks to start a container. -/
def startRequest (unitId : String) : Http.Request :=
  let address := containerAddress unitId "/start"
  ⟨.post, address.path, address.parameters, none⟩

/-- Asks for the exit status of a container. -/
def waitRequest (unitId : String) : Http.Request :=
  let address := containerAddress unitId "/wait"
  ⟨.post, address.path, address.parameters, none⟩

/-- Asks for the output of a container, so far or until it exits. -/
def logsRequest (unitId : String) (follow : Bool) (select : LogSelect) : Http.Request :=
  ⟨.get, (containerAddress unitId "/logs").path,
    [("follow", flag follow), ("since", "0"), ("stderr", flag select.hasStderr),
     ("stdout", flag select.hasStdout), ("tail", "all"), ("timestamps", "false"),
     ("until", "0")], none⟩

/-- Asks to remove a container. -/
def removeRequest (unitId : String) (force : Bool) : Http.Request :=
  ⟨.delete, (containerAddress unitId "").path,
    [("force", flag force), ("link", "false"), ("v", "false")], none⟩

/-- Asks to put an image under a further name. -/
def tagRequest (source target : ImageRef) : Http.Request :=
  ⟨.post, (imageAddress source "/tag").path,
    [("repo", target.repository), ("tag", target.tag)], none⟩

/-- Asks to remove an image by force. -/
def removeImageRequest (image : ImageRef) : Http.Request :=
  ⟨.delete, (imageAddress image "").path, [("force", "true"), ("noprune", "false")], none⟩

/-- Asks to make an image of a container, which pauses meanwhile. -/
def commitRequest (unitId : String) (target : ImageRef) : Http.Request :=
  ⟨.post, (address "/commit").path,
    [("container", unitId), ("pause", "true"), ("repo", target.repository), ("tag", target.tag)],
    some (.object [])⟩

/-! ### What replies mean -/

/-- The unit of a listed container: its first name without the slashes in front. -/
def unitOf? (listed : Listed) : Option UnitRef :=
  listed.id.map fun id =>
    ⟨id, String.ofList ((listed.names.headD "").toList.dropWhile (· = '/'))⟩

/-- The exit status in a body.  Its first line is looked at when it has come, and once more when
nothing else comes; a line feed behind a line without a status does not count any more then. -/
def statusOf (body : List UInt8) : Except Trouble Int := do
  if let some status ← readLine readStatus body then return status
  let rest := body.erase 10
  if let some status ← readLine readStatus rest then return status
  if (rest.erase 10).isEmpty then throw (.unexpected "wait stream ended without an exit status")
  else throw (.lost "bytes remaining on stream")

/-- The pieces of output in a body; a stream that breaks off ends with trouble. -/
def piecesOf (body : List UInt8) : List (Except Trouble String) :=
  let stream := LogStream.decode body
  stream.pieces.map (fun piece => .ok (Text.Utf8.decode piece))
    ++ if stream.isWhole then [] else [.error (.lost "bytes remaining on stream")]

/-- All pieces of output as one text. -/
def joinPieces : List (Except Trouble String) → Except Trouble String
  | [] => .ok ""
  | piece :: rest => do return (← piece) ++ (← joinPieces rest)

/-! ### Operations -/

section Operations

variable (host : HostId)

/-- The exit status of a container. -/
def wait (unitId : String) : Program Http.interface Error Int :=
  exchange host .wait (waitRequest unitId) fun body => body.bind statusOf

/-- Creates a container and starts it; unless it is detached its exit is waited for. -/
def launch (spec : LaunchSpec) : Program Http.interface Error UnitHandle := do
  let unitId ← exchange host .create (createRequest spec) fun body =>
    body.bind (readBody readCreated)
  exchange host .start (startRequest unitId) ignoreBody
  if !spec.detach then
    let _ ← wait host unitId
  return ⟨host, unitId, ⟨spec.name⟩⟩

/-- What is asked of a host, put to its daemon. -/
def ask : (r : Host.Request) → Program Http.interface Error r.Value
  | .list label =>
    exchange host .list (listRequest label) fun body =>
      (body.bind (readBody readListing)).map fun listing => listing.filterMap unitOf?
  | .launch spec => launch host spec
  | .wait unit => wait host unit.unitId
  | .logs unit select =>
    exchange host .logs (logsRequest unit.unitId false select) fun body =>
      body.bind fun body => joinPieces (piecesOf body)
  | .follow unit =>
    exchange host .follow (logsRequest unit.unitId true .both) fun body =>
      body.map fun body => (piecesOf body).map fun piece =>
        piece.mapError (Trouble.error host .follow)
  | .remove unitId force =>
    exchange host .remove (removeRequest unitId force) fun body => forgiveMissing (ignoreBody body)
  | .tag source target => exchange host .tag (tagRequest source target) ignoreBody
  | .removeImage image =>
    exchange host .removeImage (removeImageRequest image) fun body =>
      forgiveMissing ((body.bind (readBody readRemoved)).map fun _ => ())
  | .commit unit target =>
    exchange host .commit (commitRequest unit.unitId target) fun body =>
      (body.bind (readBody readImageName)).map fun _ => ()

end Operations

/-- Hosts behind one daemon as a layer. -/
def layer {σ : Type} (handler : Handler Http.interface σ) : Host.Layer σ := fun host r s =>
  match Program.run handler (ask host r) s with
  | (some result, s) => (some (r.settle result), s)
  | (none, s) => (none, s)

end JoinBench.Docker
