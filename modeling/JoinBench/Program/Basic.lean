/-!
# Programs over an interface

A program is a tree: it is done, it has failed, it makes a call and goes on with the answer, or
it starts several tasks together and goes on with their results.  What calls there are and what
they answer is an interface; who answers them is not part of a program.

Tasks that are started together belong to the program that started them: when one of them fails
the others are dropped where they stand.
-/

namespace JoinBench

/-- The calls of a program and their answers. -/
structure Interface where
  Call : Type
  Answer : Call → Type

/-- A program over an interface that fails with an `ε` or is done with an `α`. -/
inductive Program (I : Interface) (ε : Type) : Type → Type 1 where
  | done {α : Type} (value : α) : Program I ε α
  | fail {α : Type} (error : ε) : Program I ε α
  | call {α : Type} (c : I.Call) (next : I.Answer c → Program I ε α) : Program I ε α
  /-- Starts `n` tasks together; what follows gets their results in order or the first error. -/
  | together {α β : Type} (n : Nat) (tasks : Fin n → Program I ε β)
      (next : Except ε (List β) → Program I ε α) : Program I ε α

namespace Program

variable {I : Interface} {ε α β : Type}

/-- Goes on with the result of a program. -/
def bind : Program I ε α → (α → Program I ε β) → Program I ε β
  | done a, f => f a
  | fail e, _ => fail e
  | call c next, f => call c fun x => (next x).bind f
  | together n tasks next, f => together n tasks fun r => (next r).bind f

instance : Monad (Program I ε) where
  pure := done
  bind := bind

/-- The result of a program as a value. -/
def attempt : Program I ε α → Program I ε (Except ε α)
  | done a => done (.ok a)
  | fail e => done (.error e)
  | call c next => call c fun x => (next x).attempt
  | together n tasks next => together n tasks fun r => (next r).attempt

instance : MonadExceptOf ε (Program I ε) where
  throw := fail
  tryCatch p handle := p.attempt.bind fun
    | .ok a => done a
    | .error e => handle e

/-- A program that makes no calls. -/
def ofExcept : Except ε α → Program I ε α
  | .ok a => done a
  | .error e => fail e

/-- Starts tasks together and waits for all of them. -/
def all (tasks : List (Program I ε α)) : Program I ε (List α) :=
  together tasks.length (fun i => tasks.get i) ofExcept

/-- Runs a program for each item, one after the other. -/
def forEach (f : β → Program I ε Unit) : List β → Program I ε Unit
  | [] => done ()
  | x :: rest => (f x).bind fun _ => forEach f rest

end Program

end JoinBench
