import JoinBench.Environment.Basic
import JoinBench.Fabric

/-!
# The lifecycle of units

A manager launches, checkpoints and removes the units of one topology.  Every role has one
current checkpoint image, tagged with the name of the role, from which its next unit is
launched.  While a unit is made into a new checkpoint, the previous one stays reachable under
the stale tag.
-/

namespace JoinBench

/-- What the units of one topology are launched with, and where. -/
structure Manager where
  topology : Topology
  fabric : Fabric
  image : ImageSettings
  label : String
  shell : List String
deriving DecidableEq, Inhabited, Repr

namespace Manager

/-- The current checkpoint of a role. -/
def checkpoint (m : Manager) (role : Role) : ImageRef :=
  ⟨m.image.repository, role.id.text⟩

/-- The previous checkpoint of a role while a new one is made. -/
def stale (m : Manager) (role : Role) : ImageRef :=
  ⟨m.image.repository, role.id.text ++ "-old"⟩

/-- The host of a role. -/
def hostFor (m : Manager) (role : Role) : Except Error HostId :=
  m.topology.hostOf role >>= m.fabric.host

/-- The role of a unit. -/
def roleOf (m : Manager) (unit : UnitHandle) : Except Error Role :=
  match m.topology.role? unit.role with
  | some role => .ok role
  | none => .error (.lifecycle unit.role .foreignUnit)

/-! ### Resetting -/

/-- Removes every unit that carries the label, and counts them.  This goes before images are
prepared, so that no unit of an earlier run is in the way of a name. -/
def cleanAll (m : Manager) : Job Nat := do
  let removed ← m.fabric.cleanAll m.label
  Job.forgetStates
  return removed

/-- Puts a role back to the base image: its checkpoint and its stale image are dropped and the
base image is tagged instead. -/
def prepareImage (m : Manager) (role : Role) : Job Unit := do
  if (← Job.stateOf role).isBusy then throw (.lifecycle role.id .imageInUse)
  let host ← .ofExcept (m.hostFor role)
  Job.removeImage host (m.checkpoint role)
  Job.removeImage host (m.stale role)
  Job.tag host m.image.base (m.checkpoint role)
  Job.setState role .baseImage
  Job.log .debug ("Created " ++ (m.checkpoint role).display ++ " on " ++ host.text)

/-- Puts every role back to the base image, one after the other. -/
def prepareImages (m : Manager) : Job Unit :=
  Program.forEach m.prepareImage m.topology.roles

/-! ### Launching -/

/-- The request that launches a role with the given command line. -/
def launchSpec (m : Manager) (role : Role) (commandLine : String) : LaunchSpec where
  image := m.checkpoint role
  name := role.id.text
  command := m.shell ++ [commandLine]
  labels := [m.label]
  detach := true

/-- Launches a role from its checkpoint.  Its identity and the flags stand behind the command.
When the launch fails the role keeps its state. -/
def runRole (m : Manager) (role : Role) (command : String) (flags : UnitFlags) :
  Job UnitHandle := do
  let rendered ← .ofExcept (flags.render role.id)
  let host ← .ofExcept (m.hostFor role)
  let previous ← Job.stateOf role
  if !previous.canLaunch then throw (.lifecycle role.id (.notLaunchable previous))
  Job.setState role .launching
  let spec := m.launchSpec role (command ++ " " ++ rendered)
  Job.log .debug ("Running on " ++ host.text ++ ": " ++ Text.quotedList spec.command)
  match ← (Job.launch host spec).attempt with
  | .ok unit =>
    Job.log .debug ("Started unit " ++ unit.display ++ " from image " ++ spec.image.display)
    Job.setState role (.running unit)
    return unit
  | .error e =>
    Job.setState role previous
    throw e

/-- Launches the same command for several roles together. -/
def runAll (m : Manager) (command : String) (roles : List Role) (flags : UnitFlags) :
  Job (List UnitHandle) :=
  Program.all (roles.map fun role => m.runRole role command flags)

/-! ### Waiting -/

/-- Waits for a unit and keeps its status, if the role still runs it. -/
def wait (m : Manager) (unit : UnitHandle) : Job Int := do
  let role ← .ofExcept (m.roleOf unit)
  let host ← .ofExcept (m.fabric.host unit.host)
  let status ← Job.wait host unit
  if (← Job.stateOf role) = .running unit then Job.setState role (.exited unit status)
  return status

/-- Waits for several units together. -/
def waitAll (m : Manager) (units : List UnitHandle) : Job (List Int) :=
  Program.all (units.map m.wait)

/-- The output of a unit. -/
def logs (m : Manager) (unit : UnitHandle) (select : LogSelect) : Job String := do
  let host ← .ofExcept (m.fabric.host unit.host)
  Job.logs host unit select

/-- The pieces of the output of a unit until it exits. -/
def follow (m : Manager) (unit : UnitHandle) : Job (List (Except Error String)) := do
  let host ← .ofExcept (m.fabric.host unit.host)
  Job.follow host unit

/-- Waits for a unit; a status other than zero is an error that carries its output. -/
def ensureSuccess (m : Manager) (unit : UnitHandle) : Job Unit := do
  let status ← m.wait unit
  if status ≠ 0 then
    match ← (m.logs unit .both).attempt with
    | .ok output => throw (.unitRun unit.role status output)
    | .error e => throw (.unitRun unit.role status ("<logs unavailable: " ++ e.message ++ ">"))

/-! ### Checkpoints -/

/-- Makes an exited unit the checkpoint of its role.  The previous checkpoint is kept under the
stale tag until the new one is there. -/
def commitUnit (m : Manager) (unit : UnitHandle) : Job Unit := do
  let role ← .ofExcept (m.roleOf unit)
  m.ensureSuccess unit
  let host ← .ofExcept (m.fabric.host unit.host)
  Job.tag host (m.checkpoint role) (m.stale role)
  Job.commit host unit (m.checkpoint role)
  Job.remove host unit.unitId false
  Job.removeImage host (m.stale role)
  Job.setState role .committed
  Job.log .debug
    ("Committed " ++ unit.display ++ " into " ++ (m.checkpoint role).display)

/-- Makes several exited units the checkpoints of their roles, together. -/
def commit (m : Manager) (units : List UnitHandle) : Job Unit := do
  let _ ← Program.all (units.map m.commitUnit)
  return ()

end Manager

end JoinBench
