import JoinBench.Interrupt.Listener

/-!
# Shutting down

A run and its listener side by side.  The run takes at most one interrupt out of the channel;
when it is through it tells the listener to end and waits for it.  Signals arrive at any time.
-/

namespace JoinBench

/-- Where a run stands. -/
inductive RunPhase where
  | running
  /-- An interrupt was received, and what follows it is under way. -/
  | stopping (kind : InterruptKind)
  /-- The run is over and waits for the listener to end. -/
  | joining
  | over
deriving DecidableEq, Inhabited, Repr

/-- A run and its listener. -/
structure Session where
  phase : RunPhase
  listener : Listener

/-- What can happen in a session. -/
inductive SessionEvent where
  /-- A signal arrives. -/
  | raise (signal : Signal)
  /-- The listener takes a signal. -/
  | take (signal : Signal)
  /-- The listener gets rid of what it is sending. -/
  | send
  /-- The listener ends because it was told to. -/
  | stop
  /-- The run receives an interrupt. -/
  | receive
  /-- The run is through with its grid, or with what follows an interrupt, and tells the
  listener to end. -/
  | finish
  /-- The run sees that the listener has ended. -/
  | join
deriving DecidableEq, Inhabited, Repr

namespace Session

/-- A run that begins. -/
def start : Session :=
  ⟨.running, .start⟩

/-- What an event makes of a session; `none` if it cannot happen. -/
def step? (s : Session) : SessionEvent → Option Session
  | .raise signal => some { s with listener := s.listener.raise signal }
  | .take signal => (s.listener.take? signal).map fun l => { s with listener := l }
  | .send => s.listener.send?.map fun l => { s with listener := l }
  | .stop => s.listener.stop?.map fun l => { s with listener := l }
  | .receive =>
    if s.phase = .running then
      s.listener.receive?.map fun (kind, l) => ⟨.stopping kind, l⟩
    else none
  | .finish =>
    match s.phase with
    | .running | .stopping _ => some ⟨.joining, s.listener.cancel⟩
    | .joining | .over => none
  | .join =>
    if s.phase = .joining ∧ s.listener.hasEnded = true then some { s with phase := .over }
    else none

/-- What a list of events makes of a session; `none` if one of them cannot happen. -/
def run? : List SessionEvent → Session → Option Session
  | [], s => some s
  | event :: rest, s => (s.step? event).bind (run? rest)

/-- A session that some events lead to. -/
def Reachable (s : Session) : Prop :=
  ∃ events, run? events start = some s

end Session

end JoinBench
