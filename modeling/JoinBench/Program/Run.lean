import JoinBench.Program.Basic

/-!
# Running programs

A handler answers calls out of a state, or never answers.  A program that gets no answer is
suspended: it makes no further calls, and neither does what comes behind it, but the tasks that
were started together with it still run.
-/

namespace JoinBench

/-- Answers calls out of a state; `none` never answers. -/
abbrev Handler (I : Interface) (σ : Type) := (c : I.Call) → σ → Option (I.Answer c) × σ

/-- What running something leaves: its result, or `none` if it is suspended, and the state. -/
abbrev Outcome (ε α σ : Type) := Option (Except ε α) × σ

namespace Program

variable {I : Interface} {ε α β σ : Type}

/-- The number of tasks up to which the first error ends a group whichever tasks are still
suspended.  The results of a larger group are taken in order, so that a suspended task hides
the errors behind it. -/
def eagerGroup : Nat := 30

/-- Runs tasks one after the other, behind one that is suspended. -/
def settleBehind (eager : Bool) : List (σ → Outcome ε β σ) → σ → Outcome ε (List β) σ
  | [], s => (none, s)
  | task :: rest, s =>
    match task s with
    | (some (.error e), s) => if eager then (some (.error e), s) else settleBehind eager rest s
    | (_, s) => settleBehind eager rest s

/-- Runs tasks one after the other up to the first error. -/
def settle (eager : Bool) : List (σ → Outcome ε β σ) → σ → Outcome ε (List β) σ
  | [], s => (some (.ok []), s)
  | task :: rest, s =>
    match task s with
    | (some (.ok x), s) =>
      match settle eager rest s with
      | (some (.ok xs), s) => (some (.ok (x :: xs)), s)
      | (some (.error e), s) => (some (.error e), s)
      | (none, s) => (none, s)
    | (some (.error e), s) => (some (.error e), s)
    | (none, s) => settleBehind eager rest s

/-- Runs a program. -/
def run (handle : Handler I σ) {α : Type} : Program I ε α → σ → Outcome ε α σ
  | done a, s => (some (.ok a), s)
  | fail e, s => (some (.error e), s)
  | call c next, s =>
    match handle c s with
    | (some x, s) => run handle (next x) s
    | (none, s) => (none, s)
  | together n tasks next, s =>
    match settle (n ≤ eagerGroup) (List.ofFn fun i => run handle (tasks i)) s with
    | (some r, s) => run handle (next r) s
    | (none, s) => (none, s)

end Program

end JoinBench
