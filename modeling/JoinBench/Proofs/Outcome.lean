import Mathlib.Tactic.Common

/-!
# Results of steps

A step behind another succeeds where both do, and fails with the error of the first of them that
does not.
-/

namespace JoinBench

variable {ε α β : Type}

theorem bind_eq_ok {r : Except ε α} {f : α → Except ε β} {b : β} :
  r >>= f = .ok b ↔ ∃ a, r = .ok a ∧ f a = .ok b
  := by
  cases r with
  | error e =>
      constructor
      · intro h
        cases h
      · rintro ⟨a, ha, -⟩
        cases ha
  | ok a =>
      constructor
      · intro h
        exact ⟨a, rfl, h⟩
      · rintro ⟨a, ha, h⟩
        cases ha
        exact h

theorem bind_eq_error {r : Except ε α} {f : α → Except ε β} {e : ε} :
  r >>= f = .error e ↔ r = .error e ∨ ∃ a, r = .ok a ∧ f a = .error e
  := by
  cases r with
  | error e' =>
      constructor
      · intro h
        cases h
        exact .inl rfl
      · rintro (h | ⟨a, ha, -⟩)
        · cases h
          rfl
        · cases ha
  | ok a =>
      constructor
      · intro h
        exact .inr ⟨a, rfl, h⟩
      · rintro (h | ⟨a, ha, h⟩)
        · cases h
        · cases ha
          exact h

/-- Behind a check the rest succeeds where the check passes. -/
theorem check_eq_ok {c : Prop} [Decidable c] {e : ε} {next : PUnit → Except ε β} {b : β} :
  (if c then throw e >>= next else next ⟨⟩) = .ok b ↔ ¬ c ∧ next ⟨⟩ = .ok b
  := by
  split_ifs with hc
  · constructor
    · intro h
      cases h
    · rintro ⟨hnot, -⟩
      exact absurd hc hnot
  · exact ⟨fun h => ⟨hc, h⟩, And.right⟩

/-- Several steps succeed where each of them does. -/
theorem exists_mapM_eq_ok {f : α → Except ε β} {l : List α} :
  (∃ bs, l.mapM f = .ok bs) ↔ ∀ a ∈ l, ∃ b, f a = .ok b
  := by
  induction l with
  | nil =>
      constructor
      · intro _ a ha
        cases ha
      · intro _
        exact ⟨[], rfl⟩
  | cons a rest ih =>
      rw [List.mapM_cons, List.forall_mem_cons, ← ih]
      constructor
      · rintro ⟨bs, hbs⟩
        obtain ⟨b, hb, hrest⟩ := bind_eq_ok.mp hbs
        obtain ⟨bs', hbs', -⟩ := bind_eq_ok.mp hrest
        exact ⟨⟨b, hb⟩, bs', hbs'⟩
      · rintro ⟨⟨b, hb⟩, bs, hbs⟩
        use b :: bs
        rw [hb, hbs]
        rfl

/-- The error of several steps is the error of one of them. -/
theorem exists_of_mapM_eq_error {f : α → Except ε β} {l : List α} {e : ε}
    (h : l.mapM f = .error e) :
  ∃ a ∈ l, f a = .error e
  := by
  induction l with
  | nil => cases h
  | cons a rest ih =>
      rw [List.mapM_cons] at h
      obtain ha | ⟨b, -, hrest⟩ := bind_eq_error.mp h
      · exact ⟨a, List.mem_cons_self, ha⟩
      · obtain hrest | ⟨bs, -, hpure⟩ := bind_eq_error.mp hrest
        · obtain ⟨other, hother, herror⟩ := ih hrest
          exact ⟨other, List.mem_cons_of_mem a hother, herror⟩
        · cases hpure

end JoinBench
