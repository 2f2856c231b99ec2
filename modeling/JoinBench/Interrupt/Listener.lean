import JoinBench.Interrupt

/-!
# The interrupt listener

A listener turns the signals of the operating system into interrupts and sends them over a
channel of bounded capacity.  Signals of one kind that arrive before the listener gets to them
count once.  The listener ends when it is told to while it waits for a signal, or when it finds
that the other end of the channel is gone; while the channel is full it does neither.
-/

namespace JoinBench

/-- A signal of the operating system. -/
inductive Signal where
  /-- The operator asks the program to end. -/
  | interrupt
  /-- The operator asks the program to stand still. -/
  | suspend
deriving DecidableEq, Inhabited, Repr

/-- What a signal asks for. -/
def Signal.kind : Signal → InterruptKind
  | interrupt => .cleanup
  | suspend => .immediate

/-- What the listener is doing. -/
inductive Activity where
  | waiting
  /-- Putting an interrupt into the channel. -/
  | sending (kind : InterruptKind)
  | ended
deriving DecidableEq, Inhabited, Repr

/-- How many interrupts the channel holds. -/
def channelCapacity : Nat := 4

/-- A listener and its channel. -/
structure Listener where
  activity : Activity
  /-- The signals that arrived and were not yet taken. -/
  pending : Signal → Bool
  /-- What the channel holds, oldest first. -/
  channel : List InterruptKind
  /-- Whether somebody may still receive. -/
  isOpen : Bool
  /-- Whether the listener was told to end. -/
  cancelled : Bool

namespace Listener

/-- A listener that waits for the first signal. -/
def start : Listener where
  activity := .waiting
  pending := fun _ => false
  channel := []
  isOpen := true
  cancelled := false

/-- Marks a signal as pending or not. -/
def setPending (l : Listener) (signal : Signal) (isPending : Bool) : Listener :=
  { l with pending := fun s => if s = signal then isPending else l.pending s }

/-! ### What happens to a listener -/

/-- A signal arrives. -/
def raise (signal : Signal) (l : Listener) : Listener :=
  l.setPending signal true

/-- The listener is told to end. -/
def cancel (l : Listener) : Listener :=
  { l with cancelled := true }

/-- The receiving end of the channel goes away. -/
def close (l : Listener) : Listener :=
  { l with isOpen := false }

/-- The oldest interrupt in the channel is received. -/
def receive? (l : Listener) : Option (InterruptKind × Listener) :=
  match l.channel with
  | kind :: rest => some (kind, { l with channel := rest })
  | [] => none

/-! ### What a listener does -/

/-- The listener takes a pending signal. -/
def take? (signal : Signal) (l : Listener) : Option Listener :=
  if l.activity = .waiting ∧ l.pending signal = true then
    some { l.setPending signal false with activity := .sending signal.kind }
  else none

/-- The listener puts what it is sending into the channel, or ends because nobody would receive
it.  A full channel holds it up. -/
def send? (l : Listener) : Option Listener :=
  match l.activity with
  | .sending kind =>
    if !l.isOpen then some { l with activity := .ended }
    else if l.channel.length < channelCapacity then
      some { l with activity := .waiting, channel := l.channel ++ [kind] }
    else none
  | _ => none

/-- The listener ends because it was told to. -/
def stop? (l : Listener) : Option Listener :=
  if l.activity = .waiting ∧ l.cancelled = true then some { l with activity := .ended }
  else none

/-! ### Runs -/

/-- A signal arrives and is sent on. -/
def handle? (signal : Signal) (l : Listener) : Option Listener :=
  ((l.raise signal).take? signal).bind send?

/-- The interrupts that are received when each one is waited for before the next signal
arrives. -/
def forward : List Signal → Listener → List InterruptKind × Listener
  | [], l => ([], l)
  | signal :: rest, l =>
    match (l.handle? signal).bind receive? with
    | some (kind, l) =>
      let (kinds, l) := forward rest l
      (kind :: kinds, l)
    | none => forward rest l

/-- Whether the listener has ended. -/
def hasEnded (l : Listener) : Bool :=
  l.activity = .ended

end Listener

end JoinBench
