import JoinBench.Program.Run
import Mathlib.Logic.Basic
import Mathlib.Tactic.Use

/-!
# What a program ends with

`Ends handle p s Q` says that the program `p`, run from `s`, is never left without an answer,
and that its result and the state behind it satisfy `Q`.  A program made of smaller ones is
taken apart by one rule for each way of making it: behind each part stands what the rest has to
end with.  Tasks that are started together end with what they end with one after the other.
-/

namespace JoinBench.Program

variable {I : Interface} {ε α β σ : Type} (handle : Handler I σ)

/-- The program ends, and its result and the state behind it satisfy `Q`. -/
def Ends (p : Program I ε α) (s : σ) (Q : Except ε α → σ → Prop) : Prop :=
  ∃ r s', p.run handle s = (some r, s') ∧ Q r s'

/-- What has to hold of a result for the rest of a program to end with `Q`: a value goes on
with `f`, and an error ends the whole. -/
def Then (f : α → Program I ε β) (Q : Except ε β → σ → Prop) : Except ε α → σ → Prop
  | .ok a, s => Ends handle (f a) s Q
  | .error e, s => Q (.error e) s

/-- Runs programs one after the other. -/
def sequence : List (Program I ε α) → Program I ε (List α)
  | [] => done []
  | p :: rest => p.bind fun a => (sequence rest).bind fun as => done (a :: as)

variable {handle}

/-! ### The run of a program made of parts -/

theorem run_bind (p : Program I ε α) (f : α → Program I ε β) (s : σ) :
  (p.bind f).run handle s = match p.run handle s with
    | (some (.ok a), s') => (f a).run handle s'
    | (some (.error e), s') => (some (.error e), s')
    | (none, s') => (none, s')
  := by
  induction p generalizing s with
  | done a => rfl
  | fail e => rfl
  | call c next ih =>
      simp only [bind, run]
      cases handle c s with
      | mk x s' =>
          cases x with
          | none => rfl
          | some x => apply ih
  | together n tasks next _ ih =>
      simp only [bind, run]
      cases settle (n ≤ eagerGroup) (List.ofFn fun i => run handle (tasks i)) s with
      | mk r s' =>
          cases r with
          | none => rfl
          | some r => apply ih

theorem run_attempt (p : Program I ε α) (s : σ) :
  p.attempt.run handle s = ((p.run handle s).1.map .ok, (p.run handle s).2)
  := by
  induction p generalizing s with
  | done a => rfl
  | fail e => rfl
  | call c next ih =>
      simp only [attempt, run]
      cases handle c s with
      | mk x s' =>
          cases x with
          | none => rfl
          | some x => apply ih
  | together n tasks next _ ih =>
      simp only [attempt, run]
      cases settle (n ≤ eagerGroup) (List.ofFn fun i => run handle (tasks i)) s with
      | mk r s' =>
          cases r with
          | none => rfl
          | some r => apply ih

/-! ### One rule for each way of making a program -/

theorem ends_iff_of_run {p : Program I ε α} {s s' : σ} {r : Except ε α}
    (h : p.run handle s = (some r, s')) (Q : Except ε α → σ → Prop) :
  Ends handle p s Q ↔ Q r s'
  := by
  constructor
  · rintro ⟨_, _, h', hq⟩
    rw [h] at h'
    cases h'
    exact hq
  · intro hq
    use r, s', h

theorem not_ends_of_run {p : Program I ε α} {s s' : σ} (h : p.run handle s = (none, s'))
    (Q : Except ε α → σ → Prop) :
  ¬ Ends handle p s Q
  := by
  rintro ⟨_, _, h', -⟩
  rw [h] at h'
  cases h'

theorem Ends.mono {p : Program I ε α} {s : σ} {Q Q' : Except ε α → σ → Prop}
    (h : Ends handle p s Q) (hQ : ∀ r s', Q r s' → Q' r s') :
  Ends handle p s Q'
  := by
  obtain ⟨r, s', hrun, hq⟩ := h
  use r, s', hrun
  apply hQ _ _ hq

@[simp]
theorem ends_done (a : α) (s : σ) (Q : Except ε α → σ → Prop) :
  Ends handle (done a) s Q ↔ Q (.ok a) s
  := ends_iff_of_run rfl Q

@[simp]
theorem ends_pure (a : α) (s : σ) (Q : Except ε α → σ → Prop) :
  Ends handle (pure a) s Q ↔ Q (.ok a) s
  := ends_done a s Q

@[simp]
theorem ends_fail (e : ε) (s : σ) (Q : Except ε α → σ → Prop) :
  Ends handle (fail e) s Q ↔ Q (.error e) s
  := ends_iff_of_run rfl Q

@[simp]
theorem ends_throw (e : ε) (s : σ) (Q : Except ε α → σ → Prop) :
  Ends handle (throw e : Program I ε α) s Q ↔ Q (.error e) s
  := ends_fail e s Q

theorem ends_call {c : I.Call} {x : I.Answer c} {s s' : σ} (h : handle c s = (some x, s'))
    (next : I.Answer c → Program I ε α) (Q : Except ε α → σ → Prop) :
  Ends handle (call c next) s Q ↔ Ends handle (next x) s' Q
  := by
  simp [Ends, run, h]

theorem ends_bind (p : Program I ε α) (f : α → Program I ε β) (s : σ)
    (Q : Except ε β → σ → Prop) :
  Ends handle (p.bind f) s Q ↔ Ends handle p s (Then handle f Q)
  := by
  have h : (p.bind f).run handle s = _ := run_bind p f s
  cases hp : p.run handle s with
  | mk r s' =>
      rw [hp] at h
      rcases r with _ | e | a
      · simp only [not_ends_of_run h, not_ends_of_run hp]
      · rw [ends_iff_of_run h, ends_iff_of_run hp, Then]
      · rw [ends_iff_of_run hp, Then, Ends, h, Ends]

@[simp]
theorem ends_bind' (p : Program I ε α) (f : α → Program I ε β) (s : σ)
    (Q : Except ε β → σ → Prop) :
  Ends handle (p >>= f) s Q ↔ Ends handle p s (Then handle f Q)
  := ends_bind p f s Q

@[simp]
theorem then_ok (f : α → Program I ε β) (Q : Except ε β → σ → Prop) (a : α) (s : σ) :
  Then handle f Q (.ok a) s ↔ Ends handle (f a) s Q
  := Iff.rfl

@[simp]
theorem ends_attempt (p : Program I ε α) (s : σ)
    (Q : Except ε (Except ε α) → σ → Prop) :
  Ends handle p.attempt s Q ↔ Ends handle p s (fun r => Q (.ok r))
  := by
  have h : p.attempt.run handle s = _ := run_attempt p s
  cases hp : p.run handle s with
  | mk r s' =>
      rw [hp] at h
      cases r with
      | none => simp only [not_ends_of_run h, not_ends_of_run hp]
      | some r => rw [ends_iff_of_run h, ends_iff_of_run hp]

@[simp]
theorem ends_ofExcept (r : Except ε α) (s : σ) (Q : Except ε α → σ → Prop) :
  Ends handle (ofExcept r) s Q ↔ Q r s
  := by
  cases r <;> simp [ofExcept]

/-! ### Tasks that are started together -/

theorem settle_of_sequence (eager : Bool) (tasks : List (Program I ε α)) (s : σ)
    (Q : Except ε (List α) → σ → Prop) (h : Ends handle (sequence tasks) s Q) :
  ∃ r s', settle eager (tasks.map (run handle)) s = (some r, s') ∧ Q r s'
  := by
  induction tasks generalizing s Q with
  | nil =>
      use .ok [], s, rfl
      simpa [sequence] using h
  | cons p rest ih =>
      simp only [sequence, ends_bind] at h
      obtain ⟨r, s', hrun, h⟩ := h
      simp only [List.map_cons, settle, hrun]
      cases r with
      | error e =>
          use .error e, s'
          constructor
          · rfl
          · exact h
      | ok a =>
          simp only [then_ok, ends_bind] at h
          obtain ⟨r, s'', hrest, hq⟩ := ih s' _ h
          simp only [hrest]
          cases r with
          | error e =>
              use .error e, s''
              constructor
              · rfl
              · exact hq
          | ok as =>
              use .ok (a :: as), s''
              constructor
              · rfl
              · simpa using hq

/-- Tasks started together end with what they end with one after the other. -/
theorem ends_all {tasks : List (Program I ε α)} {s : σ} {Q : Except ε (List α) → σ → Prop}
    (h : Ends handle (sequence tasks) s Q) :
  Ends handle (all tasks) s Q
  := by
  obtain ⟨r, s', hrun, hq⟩ := settle_of_sequence (tasks.length ≤ eagerGroup) tasks s Q h
  have hmap : (List.ofFn fun i => run handle (tasks.get i)) = tasks.map (run handle) := by
    apply List.ext_getElem
    · simp
    · intro i h₁ h₂
      simp
  use r, s'
  constructor
  · simp only [all, run, hmap, hrun]
    cases r <;> rfl
  · exact hq

end JoinBench.Program
