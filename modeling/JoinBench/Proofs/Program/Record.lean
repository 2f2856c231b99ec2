import JoinBench.Proofs.Program.Ends
import Mathlib.Data.List.FinRange

/-!
# What is recorded of a run

A handler that records keeps every call together with the state that it met.  Recording changes
neither what a program ends with nor the state behind it, and the calls of a program that is made
of parts are the calls of its parts, one after the other.
-/

namespace JoinBench

variable {I : Interface} {ε α β σ : Type}

/-- Answers calls as before and keeps each with the state that it met, in order. -/
def Handler.recording (handle : Handler I σ) : Handler I (List (I.Call × σ) × σ)
  | c, (calls, s) => ((handle c s).1, calls ++ [(c, s)], (handle c s).2)

namespace Program

variable {handle : Handler I σ}

/-- The calls of a run, each with the state that it met. -/
def calls (handle : Handler I σ) (p : Program I ε α) (s : σ) : List (I.Call × σ) :=
  (p.run handle.recording ([], s)).2.1

/-! ### Recording changes nothing else -/

/-- The second run does what the first does and appends to a record, whatever is in it. -/
def Records {γ : Type} (plain : σ → Outcome ε α σ)
    (recorded : List γ × σ → Outcome ε α (List γ × σ)) : Prop :=
  ∀ s, ∃ new, ∀ old, recorded (old, s) = ((plain s).1, old ++ new, (plain s).2)

section Settle

variable {γ ι : Type} {plain : ι → σ → Outcome ε α σ}
  {recorded : ι → List γ × σ → Outcome ε α (List γ × σ)}

theorem records_settleBehind (eager : Bool) (h : ∀ i, Records (plain i) (recorded i))
    (items : List ι) :
  Records (settleBehind eager (items.map plain)) (settleBehind eager (items.map recorded))
  := by
  induction items with
  | nil =>
      intro s
      use []
      intro old
      simp only [List.map_nil, settleBehind, List.append_nil]
  | cons i rest ih =>
      intro s
      obtain ⟨new, hnew⟩ := h i s
      simp only [List.map_cons, settleBehind, hnew]
      cases hplain : plain i s with
      | mk r s' =>
          obtain ⟨later, hlater⟩ := ih s'
          have hrest : ∃ more, ∀ old,
              settleBehind eager (rest.map recorded) (old ++ new, s')
                = ((settleBehind eager (rest.map plain) s').1, old ++ more,
                  (settleBehind eager (rest.map plain) s').2) := by
            use new ++ later
            intro old
            rw [hlater, List.append_assoc]
          rcases r with _ | e | a
          · exact hrest
          · cases eager with
            | true => exact ⟨new, fun _ => rfl⟩
            | false => exact hrest
          · exact hrest

theorem records_settle (eager : Bool) (h : ∀ i, Records (plain i) (recorded i))
    (items : List ι) :
  Records (settle eager (items.map plain)) (settle eager (items.map recorded))
  := by
  induction items with
  | nil =>
      intro s
      use []
      intro old
      simp only [List.map_nil, settle, List.append_nil]
  | cons i rest ih =>
      intro s
      obtain ⟨new, hnew⟩ := h i s
      simp only [List.map_cons, settle, hnew]
      cases hplain : plain i s with
      | mk r s' =>
          rcases r with _ | e | a
          · obtain ⟨later, hlater⟩ := records_settleBehind eager h rest s'
            use new ++ later
            intro old
            simp only [hlater, List.append_assoc]
          · exact ⟨new, fun _ => rfl⟩
          · obtain ⟨later, hlater⟩ := ih s'
            use new ++ later
            intro old
            simp only [hlater, List.append_assoc]
            cases settle eager (rest.map plain) s' with
            | mk r s'' => rcases r with _ | e | as <;> rfl

end Settle

theorem records_run (p : Program I ε α) :
  Records (p.run handle) (p.run handle.recording)
  := by
  induction p with
  | done a => exact fun s => ⟨[], fun old => by rw [run, run, List.append_nil]⟩
  | fail e => exact fun s => ⟨[], fun old => by rw [run, run, List.append_nil]⟩
  | call c next ih =>
      intro s
      simp only [run, Handler.recording]
      cases handle c s with
      | mk x s' =>
          cases x with
          | none => exact ⟨[(c, s)], fun _ => rfl⟩
          | some x =>
              obtain ⟨later, hlater⟩ := ih x s'
              use (c, s) :: later
              intro old
              simp only [hlater, List.append_assoc, List.singleton_append]
  | together n tasks next ihTasks ihNext =>
      intro s
      obtain ⟨new, hnew⟩ := records_settle (n ≤ eagerGroup) ihTasks (List.finRange n) s
      simp only [run, List.ofFn_eq_map, hnew]
      cases settle (n ≤ eagerGroup) ((List.finRange n).map fun i => run handle (tasks i)) s with
      | mk r s' =>
          cases r with
          | none => exact ⟨new, fun _ => rfl⟩
          | some r =>
              obtain ⟨later, hlater⟩ := ihNext r s'
              use new ++ later
              intro old
              simp only [hlater, List.append_assoc]

/-- A run that is recorded ends as it does without, and its calls are appended to the record. -/
theorem run_recording (p : Program I ε α) (old : List (I.Call × σ)) (s : σ) :
  p.run handle.recording (old, s)
    = ((p.run handle s).1, old ++ p.calls handle s, (p.run handle s).2)
  := by
  obtain ⟨new, hnew⟩ : ∃ new, ∀ old, p.run handle.recording (old, s) = _ := records_run p s
  rw [calls, hnew old, hnew [], List.nil_append]

/-! ### The calls of a program made of parts -/

theorem calls_bind (p : Program I ε α) (f : α → Program I ε β) (s : σ) :
  (p.bind f).calls handle s = p.calls handle s ++ match p.run handle s with
    | (some (.ok a), s') => (f a).calls handle s'
    | _ => []
  := by
  rw [calls, run_bind, run_recording]
  cases p.run handle s with
  | mk r s' =>
      rcases r with _ | e | a
      · simp
      · simp
      · simp only [run_recording, List.nil_append]

theorem calls_attempt (p : Program I ε α) (s : σ) :
  p.attempt.calls handle s = p.calls handle s
  := by
  rw [calls, run_attempt, run_recording, List.nil_append]

theorem calls_call (c : I.Call) (next : I.Answer c → Program I ε α) (s : σ) :
  (call c next).calls handle s = (c, s) :: match handle c s with
    | (some x, s') => (next x).calls handle s'
    | (none, _) => []
  := by
  rw [calls, run]
  simp only [Handler.recording, List.nil_append]
  cases handle c s with
  | mk x s' =>
      cases x with
      | none => rfl
      | some x => simp only [run_recording, List.singleton_append]

end Program

end JoinBench
