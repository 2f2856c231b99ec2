import JoinBench.Host.Request
import JoinBench.Text.Lines

/-!
# Container hosts in memory

A host that keeps its images and units in memory.  A unit exits as soon as it is launched, with
a status and an output that depend on the request alone, or also on the requests before it.
-/

namespace JoinBench.Host

/-- What a unit leaves: its exit status and its output. -/
structure UnitResult where
  status : Int := 0
  stdout : String := ""
  stderr : String := ""
deriving DecidableEq, Inhabited, Repr

/-- What units do, given the earlier launch requests of their host, newest first. -/
abbrev Behaviour := (earlier : List LaunchSpec) → LaunchSpec → UnitResult

/-- A unit that is kept. -/
structure KeptUnit where
  name : String
  labels : List String
  result : UnitResult
deriving DecidableEq, Inhabited, Repr

/-- A host in memory. -/
structure Memory where
  id : HostId
  behaviour : Behaviour
  /-- The identity of the image behind each tag. -/
  images : Std.ExtTreeMap ImageRef Nat
  /-- The units that have not been removed. -/
  units : Std.ExtTreeMap String KeptUnit
  /-- All launch requests, newest first. -/
  requested : List LaunchSpec
  /-- The launch requests that led to a unit, newest first. -/
  launched : List LaunchSpec
  /-- The last identity that was given away. -/
  lastId : Nat
  /-- The number of launches behind which the host is down; it is down then for listing and
  launching. -/
  reachableRuns : Option Nat

namespace Memory

/-- A host with neither images nor units. -/
def empty (id : HostId) (behaviour : Behaviour) : Memory where
  id := id
  behaviour := behaviour
  images := ∅
  units := ∅
  requested := []
  launched := []
  lastId := 0
  reachableRuns := none

/-! ### Setting up -/

/-- Puts a new image under a tag. -/
def addImage (image : ImageRef) (host : Memory) : Memory :=
  { host with
    images := host.images.insert image (host.lastId + 1)
    lastId := host.lastId + 1 }

/-- Leaves a unit behind, as a run that was cut off would. -/
def addStaleUnit (name label : String) (host : Memory) : Memory :=
  let unitId := host.id.text ++ "-stale-" ++ (host.lastId + 1).repr
  { host with
    units := host.units.insert unitId ⟨name, [label], {}⟩
    lastId := host.lastId + 1 }

/-- Lets the host go down behind so many launches. -/
def goDownBehind (runs : Nat) (host : Memory) : Memory :=
  { host with reachableRuns := some runs }

/-! ### Answering -/

/-- Whether the host is down. -/
def isDown (host : Memory) : Bool :=
  match host.reachableRuns with
  | some limit => limit ≤ host.launched.length
  | none => false

/-- The error of a host that is down. -/
def refused (host : Memory) : Error :=
  .connection host.id "connection refused"

/-- The error for an image that is not there. -/
def noImage (host : Memory) (operation : Operation) (image : ImageRef) : Error :=
  .runtime host.id operation ("no such image: " ++ image.display)

/-- The error for a unit that is not there. -/
def noUnit (host : Memory) (operation : Operation) (unitId : String) : Error :=
  .runtime host.id operation ("no such container: " ++ unitId)

/-- The error for a name that is taken. -/
def nameTaken (host : Memory) (name : String) : Error :=
  .runtime host.id .create ("container name '" ++ name ++ "' is already in use")

/-- The units that carry a label, in ascending order of their identities. -/
def labelled (host : Memory) (label : String) : List UnitRef :=
  (host.units.toList.filter fun u => u.2.labels.contains label).map fun u => ⟨u.1, u.2.name⟩

/-- Whether a unit of a name is there. -/
def hasName (host : Memory) (name : String) : Bool :=
  host.units.toList.any fun u => u.2.name = name

/-- Launches a unit. -/
def launch (spec : LaunchSpec) (host : Memory) : Except Error UnitHandle × Memory :=
  let result := host.behaviour host.requested spec
  let host := { host with requested := spec :: host.requested }
  if host.isDown then (.error host.refused, host)
  else if !host.images.contains spec.image then (.error (host.noImage .create spec.image), host)
  else if host.hasName spec.name then (.error (host.nameTaken spec.name), host)
  else
    let unitId := host.id.text ++ "-unit-" ++ (host.lastId + 1).repr
    (.ok ⟨host.id, unitId, ⟨spec.name⟩⟩,
      { host with
        units := host.units.insert unitId ⟨spec.name, spec.labels, result⟩
        launched := spec :: host.launched
        lastId := host.lastId + 1 })

/-- The output of a unit on the chosen streams. -/
def output (select : LogSelect) (result : UnitResult) : String :=
  (if select.hasStdout then result.stdout else "")
    ++ (if select.hasStderr then result.stderr else "")

/-- The pieces of the output of a unit: its lines. -/
def pieces (result : UnitResult) : List (Except Error String) :=
  (Text.lines (output .both result)).map fun line => .ok (line ++ "\n")

/-- Answers a request. -/
def answer : (r : Request) → Memory → r.Answer × Memory
  | .list label, host =>
    (if host.isDown then .error host.refused else .ok (host.labelled label), host)
  | .launch spec, host => host.launch spec
  | .wait unit, host =>
    (match host.units[unit.unitId]? with
      | some u => .ok u.result.status
      | none => .error (host.noUnit .wait unit.unitId), host)
  | .logs unit select, host =>
    (match host.units[unit.unitId]? with
      | some u => .ok (output select u.result)
      | none => .error (host.noUnit .logs unit.unitId), host)
  | .follow unit, host =>
    (match host.units[unit.unitId]? with
      | some u => pieces u.result
      | none => [.error (host.noUnit .follow unit.unitId)], host)
  | .remove unitId _, host => (.ok (), { host with units := host.units.erase unitId })
  | .tag source target, host =>
    match host.images[source]? with
    | some image => (.ok (), { host with images := host.images.insert target image })
    | none => (.error (host.noImage .tag source), host)
  | .removeImage image, host => (.ok (), { host with images := host.images.erase image })
  | .commit unit target, host =>
    if host.units.contains unit.unitId then (.ok (), host.addImage target)
    else (.error (host.noUnit .commit unit.unitId), host)

end Memory

end JoinBench.Host
