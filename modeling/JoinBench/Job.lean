import JoinBench.Host.Request
import JoinBench.Log
import JoinBench.Program.Basic
import JoinBench.ResultRecord
import JoinBench.Topology

/-!
# Jobs of the benchmark

A job is a program over all that a running benchmark does: it asks container hosts, keeps the
states of the roles, writes to the log and to the sinks of records, and lets time pass.
-/

namespace JoinBench

/-- What a running benchmark does. -/
inductive Action where
  | ask (host : HostId) (request : Host.Request)
  /-- The state of a role. -/
  | stateOf (role : Role)
  | setState (role : Role) (state : UnitState)
  /-- Puts every role back to having no image. -/
  | forgetStates
  | log (line : LogLine)
  /-- Lets milliseconds pass. -/
  | pause (ms : Nat)
  /-- The time, in milliseconds. -/
  | now
  /-- Writes a record to every sink. -/
  | emit (record : ResultRecord)

/-- What an action is answered with. -/
@[reducible] def Action.Answer : Action → Type
  | ask _ request => request.Answer
  | stateOf _ => UnitState
  | setState _ _ => Unit
  | forgetStates => Unit
  | log _ => Unit
  | pause _ => Unit
  | now => Nat
  | emit _ => Except Error Unit

/-- The actions as an interface. -/
@[reducible] def Action.interface : Interface :=
  ⟨Action, Action.Answer⟩

/-- A program of the benchmark. -/
abbrev Job (α : Type) := Program Action.interface Error α

namespace Job

/-- Performs an action. -/
def perform (action : Action) : Job action.Answer :=
  .call action .done

/-! ### Requests to hosts -/

/-- The units of a host that carry a label. -/
def list (host : HostId) (label : String) : Job (List UnitRef) := do
  .ofExcept (← perform (.ask host (.list label)))

/-- Launches a unit. -/
def launch (host : HostId) (spec : LaunchSpec) : Job UnitHandle := do
  .ofExcept (← perform (.ask host (.launch spec)))

/-- The exit status of a unit. -/
def wait (host : HostId) (unit : UnitHandle) : Job Int := do
  .ofExcept (← perform (.ask host (.wait unit)))

/-- The output of a unit. -/
def logs (host : HostId) (unit : UnitHandle) (select : LogSelect) : Job String := do
  .ofExcept (← perform (.ask host (.logs unit select)))

/-- The pieces of the output of a unit until it exits. -/
def follow (host : HostId) (unit : UnitHandle) : Job (List (Except Error String)) :=
  perform (.ask host (.follow unit))

/-- Removes a unit. -/
def remove (host : HostId) (unitId : String) (force : Bool) : Job Unit := do
  .ofExcept (← perform (.ask host (.remove unitId force)))

/-- Puts an image under a further tag. -/
def tag (host : HostId) (source target : ImageRef) : Job Unit := do
  .ofExcept (← perform (.ask host (.tag source target)))

/-- Removes an image. -/
def removeImage (host : HostId) (image : ImageRef) : Job Unit := do
  .ofExcept (← perform (.ask host (.removeImage image)))

/-- Makes an image of a unit. -/
def commit (host : HostId) (unit : UnitHandle) (target : ImageRef) : Job Unit := do
  .ofExcept (← perform (.ask host (.commit unit target)))

/-! ### Everything else -/

/-- The state of a role. -/
def stateOf (role : Role) : Job UnitState :=
  perform (.stateOf role)

/-- Sets the state of a role. -/
def setState (role : Role) (state : UnitState) : Job Unit :=
  perform (.setState role state)

/-- Puts every role back to having no image. -/
def forgetStates : Job Unit :=
  perform .forgetStates

/-- Writes a line to the log. -/
def log (level : Level) (message : String) : Job Unit :=
  perform (.log (.of level message))

/-- Repeats a line of the helper in the log. -/
def echo (message : String) : Job Unit :=
  perform (.log ⟨.info, .helper, message⟩)

/-- Lets milliseconds pass. -/
def pause (ms : Nat) : Job Unit :=
  perform (.pause ms)

/-- The time, in milliseconds. -/
def now : Job Nat :=
  perform .now

/-- Writes a record to every sink. -/
def emit (record : ResultRecord) : Job Unit := do
  .ofExcept (← perform (.emit record))

end Job

end JoinBench
