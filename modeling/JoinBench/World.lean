import JoinBench.Benchmark
import JoinBench.Host.Cluster
import JoinBench.Program.Run
import JoinBench.Sink

/-!
# The surroundings of a run

The state out of which the actions of a running benchmark are answered: the hosts behind a
layer, the states of the roles, the log, the sinks and a clock.  Time only passes where a job
pauses, and a pause is where an interrupt takes effect.
-/

namespace JoinBench

/-- The surroundings of a run. -/
structure World (τ : Type) where
  hosts : τ
  states : Role → UnitState
  /-- The log, newest line first. -/
  log : List LogLine
  sinks : Sinks
  /-- The time, in milliseconds. -/
  clock : Nat
  /-- The time from which on a pause is cut off. -/
  deadline : Option Nat

namespace World

variable {τ : Type}

/-- The surroundings at the start: nothing was logged and no time has passed. -/
def start (hosts : τ) (sinks : Sinks) : World τ where
  hosts := hosts
  states := fun _ => .noImage
  log := []
  sinks := sinks
  clock := 0
  deadline := none

/-- The log, oldest line first. -/
def lines (w : World τ) : List LogLine :=
  w.log.reverse

/-- Sets the state of a role. -/
def setState (w : World τ) (role : Role) (state : UnitState) : World τ :=
  { w with states := fun r => if r = role then state else w.states r }

/-- Lets milliseconds pass.  A pause that would outlast the deadline never ends. -/
def pause (w : World τ) (ms : Nat) : Option Unit × World τ :=
  let passed := { w with clock := w.clock + ms }
  match w.deadline with
  | some t =>
    if w.clock < w.clock + ms ∧ t < w.clock + ms then (none, { w with clock := max w.clock t })
    else (some (), passed)
  | none => (some (), passed)

/-- Writes a record to every sink. -/
def emit (w : World τ) (r : ResultRecord) : Except Error Unit × World τ :=
  let (sinks, result) := w.sinks.emit r
  (result, { w with sinks := sinks })

/-- Answers the actions of jobs. -/
def handler (layer : Host.Layer τ) : Handler Action.interface (World τ)
  | .ask host request, w =>
    let (x, hosts) := layer host request w.hosts
    (x, { w with hosts := hosts })
  | .stateOf role, w => (some (w.states role), w)
  | .setState role state, w => (some (), w.setState role state)
  | .forgetStates, w => (some (), { w with states := fun _ => .noImage })
  | .log line, w => (some (), { w with log := line :: w.log })
  | .pause ms, w => w.pause ms
  | .now, w => (some w.clock, w)
  | .emit r, w =>
    let (x, w) := w.emit r
    (some x, w)

/-- Runs a job. -/
def run (layer : Host.Layer τ) (job : Job α) (w : World τ) : Outcome Error α (World τ) :=
  Program.run (handler layer) job w

end World

namespace Benchmark

variable {τ : Type}

/-- Runs points until they are through or the interrupt comes, which it does after some
milliseconds; an interrupt that is there from the start goes first. -/
def runUntilInterrupted (b : Benchmark) (layer : Host.Layer τ) (points : List Point)
  (interrupt : Option (Nat × InterruptKind)) (w : World τ) :
  Outcome Error RunOutcome (World τ) :=
  match interrupt with
  | none => w.run layer (RunOutcome.finished <$> b.runGrid points)
  | some (0, kind) => w.run layer (b.afterInterrupt kind)
  | some (ms + 1, kind) =>
    let deadline := w.clock + (ms + 1)
    match World.run layer (b.runGrid points) { w with deadline := some deadline } with
    | (some result, w) => (some (result.map .finished), { w with deadline := none })
    | (none, w) =>
      World.run layer (b.afterInterrupt kind)
        { w with clock := max w.clock deadline, deadline := none }

end Benchmark

end JoinBench
