import JoinBench.Docker.Listing
import JoinBench.Http
import JoinBench.Text.Utf8

/-!
# Bodies of replies

What the daemon says in the bodies of its replies.
-/

namespace JoinBench.Docker

open Json (Reader readList readOptional readText)
open Json.Outline (keep may must)

/-! ### Trouble -/

/-- Why a request came to nothing. -/
inductive Trouble where
  /-- The daemon refused, with a status and a reason. -/
  | refused (status : Nat) (reason : String)
  /-- The reply is not what was to be expected. -/
  | unexpected (reason : String)
  /-- The connection is gone. -/
  | lost (reason : String)
deriving DecidableEq, Inhabited, Repr

/-- The words for a trouble. -/
def Trouble.message : Trouble → String
  | refused status reason =>
    "Docker responded with status code " ++ status.repr ++ ": " ++ reason
  | unexpected reason => reason
  | lost reason => reason

/-! ### JSON in bodies -/

/-- What the JSON of a body holds. -/
def readBody (reader : Reader α) (body : List UInt8) : Except Trouble α :=
  let text := Text.Utf8.decode body
  match Json.ofText reader text with
  | .ok x => .ok x
  | .error fault =>
    let message := fault.message text
    .error (.unexpected
      (if fault.problem.kind = .early then message else "Failed to deserialize JSON: " ++ message))

/-- What the JSON in the first line of a body holds.  There is nothing in a line that is `null`
or ends too early. -/
def readLine (reader : Reader α) (body : List UInt8) : Except Trouble (Option α) :=
  let text := Text.Utf8.decode (body.takeWhile (· ≠ 10))
  match Json.ofText (readOptional reader) text with
  | .ok x => .ok x
  | .error fault =>
    let message := fault.message text
    match fault.problem.kind with
    | .early => .ok none
    | .malformed => .error (.unexpected message)
    | .unfit => .error (.unexpected ("Failed to deserialize JSON: " ++ message))

/-! ### What replies say -/

/-- Reads the name of the container that was created. -/
def readCreated : Reader String :=
  Json.Outline.read "struct ContainerCreateResponse"
    [keep "Id" readText fun _ id => id, must "Warnings" (readOptional readTexts)] ""

/-- Reads the status that a container exited with. -/
def readStatus : Reader Int :=
  Json.Outline.read "struct ContainerWaitResponse"
    [keep "StatusCode" readWide fun _ status => status,
     may "Error" (Json.Outline.check "struct ContainerWaitExitError" [may "Message" readText])] 0

/-- Reads the name of the image that was made. -/
def readImageName : Reader String :=
  Json.Outline.read "struct IdResponse"
    [{ keep "Id" readText fun _ id => id with aliases := ["id", "ID"] }] ""

/-- Reads what happened to the images that were removed. -/
def readRemoved : Reader (List Unit) :=
  readList (Json.Outline.check "struct ImageDeleteResponseItem"
    [may "Untagged" readText, may "Deleted" readText])

/-- Reads the reason of a refusal. -/
def readReason : Reader String :=
  Json.Outline.read "struct ErrorResponse" [keep "message" readText fun _ reason => reason] ""

/-- The reason that a refusal states: the message in its body, or else the body. -/
def refusalReason (body : List UInt8) : Except Trouble String :=
  if body.isEmpty then .ok ""
  else
    let text := Text.Utf8.decode body
    match Json.ofText readReason text with
    | .ok reason => .ok reason
    | .error fault =>
      if fault.problem.kind = .early then .error (.unexpected (fault.message text))
      else .ok text

end JoinBench.Docker
