import JoinBench.Json.Outline

/-!
# Listings of containers

The daemon describes every container of a listing in all detail.  Only its name and its number
are kept, but a description with anything amiss is not accepted.
-/

namespace JoinBench.Docker

open Json (Reader readBool readChoice readInteger readList readMap readNat readNumber readText)
open Json.Outline (may must)

/-! ### Parts of a description -/

/-- Reads an integer of 64 bits. -/
def readWide : Reader Int :=
  readInteger "i64" (-9223372036854775808) 9223372036854775808

/-- Reads a port number. -/
def readPort : Reader Nat :=
  readNat "u16" 65536

/-- Reads strings under names. -/
def readLabels : Reader (List (String × String)) :=
  readMap readText

/-- Reads several strings. -/
def readTexts : Reader (List String) :=
  readList readText

/-- Checks the platform of an image. -/
def checkPlatform : Reader Unit :=
  Json.Outline.check "struct OciPlatform"
    [may "architecture" readText, may "os" readText, may "os.version" readText,
     may "os.features" readTexts, may "variant" readText]

/-- Checks the description of an image. -/
def checkDescriptor : Reader Unit :=
  Json.Outline.check "struct OciDescriptor"
    [may "mediaType" readText, may "digest" readText, may "size" readWide,
     may "urls" readTexts, may "annotations" readLabels, may "data" readText,
     may "platform" checkPlatform, may "artifactType" readText]

/-- The protocols of ports. -/
def protocols : List String :=
  ["tcp", "udp", "sctp"]

/-- A fault with a list as a whole: it is met behind the blanks that follow the opening bracket,
and behind the closing bracket, or a comma with its blanks, if one of them stands there. -/
def listFault (problem : Json.Problem) (cs : List Char) : Json.Fault :=
  match Json.skipSpace cs with
  | ']' :: rest => .before problem rest
  | ',' :: rest => .before problem (Json.skipSpace rest)
  | rest => .before problem rest

/-- Checks the protocol of a port, which may also be empty or `null`. -/
def checkProtocol : Reader Unit := fun room cs =>
  let wanted := "any string"
  match Json.skipSpace cs with
  | [] => .error (.before .endInValue [])
  | 'n' :: rest => (Json.readWord ['u', 'l', 'l'] rest).map fun rest => ((), rest)
  | '"' :: rest =>
    match Json.readTextBody rest with
    | .error fault => .error fault
    | .ok (name, rest) =>
      if name = "" || protocols.contains name then .ok ((), rest)
      else .error (.before (.stated ("Invalid enum type: " ++ name)) rest)
  | '[' :: rest =>
    match room with
    | 0 => .error (.on .nestedTooDeep ('[' :: rest))
    | _ + 1 => .error (listFault (.wrongType .list wanted) rest)
  | '\x7b' :: rest =>
    match room with
    | 0 => .error (.on .nestedTooDeep ('\x7b' :: rest))
    | _ + 1 => .error (Json.nameFault (.wrongType .object wanted) rest)
  | rest => .error (Json.wrongType wanted rest)

/-- Checks a port. -/
def checkPort : Reader Unit :=
  Json.Outline.check "struct Port"
    [may "IP" readText, must "PrivatePort" readPort, may "PublicPort" readPort,
     must "Type" checkProtocol]

/-- The states of containers. -/
def states : List String :=
  ["", "created", "running", "paused", "restarting", "exited", "removing", "dead"]

/-- Checks how a container sees its host. -/
def checkHostConfig : Reader Unit :=
  Json.Outline.check "struct ContainerSummaryHostConfig"
    [may "NetworkMode" readText, may "Annotations" readLabels]

/-- Checks the wanted addresses of an end of a network. -/
def checkAddresses : Reader Unit :=
  Json.Outline.check "struct EndpointIpamConfig"
    [may "IPv4Address" readText, may "IPv6Address" readText, may "LinkLocalIPs" readTexts]

/-- Checks an end of a network. -/
def checkEndpoint : Reader Unit :=
  Json.Outline.check "struct EndpointSettings"
    [may "IPAMConfig" checkAddresses, may "Links" readTexts, may "MacAddress" readText,
     may "Aliases" readTexts, may "DriverOpts" readLabels, may "GwPriority" (readNumber "f64"),
     may "NetworkID" readText, may "EndpointID" readText, may "Gateway" readText,
     may "IPAddress" readText, may "IPPrefixLen" readWide, may "IPv6Gateway" readText,
     may "GlobalIPv6Address" readText, may "GlobalIPv6PrefixLen" readWide,
     may "DNSNames" readTexts]

/-- Checks the networks of a container. -/
def checkNetworks : Reader Unit :=
  Json.Outline.check "struct ContainerSummaryNetworkSettings"
    [may "Networks" (readMap checkEndpoint)]

/-- The kinds of mounts. -/
def mountKinds : List String :=
  ["", "bind", "volume", "image", "tmpfs", "npipe", "cluster"]

/-- Checks a mount. -/
def checkMount : Reader Unit :=
  Json.Outline.check "struct MountPoint"
    [may "Type" (readChoice mountKinds), may "Name" readText, may "Source" readText,
     may "Destination" readText, may "Driver" readText, may "Mode" readText,
     may "RW" readBool, may "Propagation" readText]

/-! ### Containers -/

/-- A container in a listing. -/
structure Listed where
  id : Option String := none
  names : List String := []
deriving DecidableEq, Inhabited, Repr

/-- Reads the description of a container. -/
def readListed : Reader Listed :=
  Json.Outline.read "struct ContainerSummary"
    [Json.Outline.keepOptional "Id" readText fun listed id => { listed with id := some id },
     Json.Outline.keepOptional "Names" readTexts fun listed names => { listed with names := names },
     may "Image" readText, may "ImageID" readText,
     may "ImageManifestDescriptor" checkDescriptor, may "Command" readText,
     may "Created" readWide, may "Ports" (readList checkPort), may "SizeRw" readWide,
     may "SizeRootFs" readWide, may "Labels" readLabels, may "State" (readChoice states),
     may "Status" readText, may "HostConfig" checkHostConfig,
     may "NetworkSettings" checkNetworks, may "Mounts" (readList checkMount)] {}

/-- Reads a listing. -/
def readListing : Reader (List Listed) :=
  readList readListed

end JoinBench.Docker
