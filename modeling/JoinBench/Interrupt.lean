/-!
# Interrupts

What an operator asks for by interrupting a run.
-/

namespace JoinBench

/-- What to do when a run is interrupted. -/
inductive InterruptKind where
  /-- Remove every labelled unit, then end. -/
  | cleanup
  /-- End at once and leave the units for inspection. -/
  | immediate
deriving DecidableEq, Inhabited, Repr

/-- The name of a kind. -/
def InterruptKind.name : InterruptKind → String
  | cleanup => "Cleanup"
  | immediate => "Immediate"

/-- The interrupt that comes first, each with the milliseconds until it comes; of several at one
time it is the first of the list. -/
def InterruptKind.earliest : List (Nat × InterruptKind) → Option (Nat × InterruptKind)
  | [] => none
  | i :: rest =>
    match earliest rest with
    | some j => some (if j.1 < i.1 then j else i)
    | none => some i

end JoinBench
