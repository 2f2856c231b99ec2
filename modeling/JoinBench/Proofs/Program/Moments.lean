import JoinBench.Proofs.Program.Steps
import Mathlib.Data.List.FinRange
import Mathlib.Tactic.Common

/-!
# Moments at which a program waits

Of the calls of a program only some take time.  A program waits when the call that it makes next is
such a call, and tasks that were started together wait when each of them does or is over.  The run
of a program is one of the ways to interleave its calls, and where it is left without an answer it
is left at a moment at which the program waits.
-/

namespace JoinBench.Program

variable {I : Interface} {ε α β σ : Type} {handle : Handler I σ} {awaited : I.Call → Prop}

/-- The program waits for answers to calls that take time, and makes no other calls meanwhile. -/
def Awaits (awaited : I.Call → Prop) {α : Type} : Program I ε α → Prop
  | done _ => False
  | fail _ => False
  | call c _ => awaited c
  | together _ tasks _ =>
    (∃ i, Awaits awaited (tasks i)) ∧ ∀ i, Awaits awaited (tasks i) ∨ (tasks i).IsOver

theorem IsOver.not_awaits {p : Program I ε α} (h : p.IsOver) :
  ¬ p.Awaits awaited
  := by
  cases p with
  | done | fail => exact id
  | call | together => cases h

/-- A program that is part of a group rests: it was not begun, or it waits, or it is over. -/
def Rests (awaited : I.Call → Prop) (p left : Program I ε α) : Prop :=
  left = p ∨ left.Awaits awaited ∨ left.IsOver

theorem Awaits.bind {p : Program I ε α} (h : p.Awaits awaited) (f : α → Program I ε β) :
  (p.bind f).Awaits awaited
  := by
  cases p with
  | done | fail => cases h
  | call | together => exact h

theorem Awaits.attempt {p : Program I ε α} (h : p.Awaits awaited) :
  p.attempt.Awaits awaited
  := by
  cases p with
  | done | fail => cases h
  | call | together => exact h

theorem awaits_bind {p : Program I ε α} {f : α → Program I ε β} (h : (p.bind f).Awaits awaited) :
  p.Awaits awaited ∨ ∃ a, p = done a ∧ (f a).Awaits awaited
  := by
  cases p with
  | done a => exact .inr ⟨a, rfl, h⟩
  | fail => cases h
  | call | together => exact .inl h

theorem awaits_of_awaits_attempt {p : Program I ε α} (h : p.attempt.Awaits awaited) :
  p.Awaits awaited
  := by
  cases p with
  | done | fail => cases h
  | call | together => exact h

section Parts

variable {others : I.Call → Prop} {p : Program I ε α} {s s' : σ}

/-- Where a program made of two parts waits, the first part does, or it is done. -/
theorem stepsAmid_bind_of_awaits {f : α → Program I ε β} {left : Program I ε β}
    (h : StepsAmid handle others (p.bind f) s left s') (hleft : left.Awaits awaited) :
  (∃ q, StepsAmid handle others p s q s' ∧ q.Awaits awaited)
    ∨ ∃ a s₁, StepsAmid handle others p s (done a) s₁
      ∧ StepsAmid handle others (f a) s₁ left s'
  := by
  obtain ⟨q, hq, rfl⟩ | hsecond := stepsAmid_bind h
  · obtain hawaits | ⟨a, rfl, -⟩ := awaits_bind hleft
    · exact .inl ⟨q, hq, hawaits⟩
    · exact .inr ⟨a, s', hq, .refl⟩
  · exact .inr hsecond

theorem stepsAmid_attempt_bind_of_awaits {f : Except ε α → Program I ε β} {left : Program I ε β}
    (h : StepsAmid handle others (p.attempt.bind f) s left s') (hleft : left.Awaits awaited) :
  (∃ q, StepsAmid handle others p s q s' ∧ q.Awaits awaited)
    ∨ ∃ r s₁, StepsAmid handle others p s (ofExcept r) s₁
      ∧ StepsAmid handle others (f r) s₁ left s'
  := by
  obtain ⟨q, hq, hawaits⟩ | ⟨r, s₁, hr, hsecond⟩ := stepsAmid_bind_of_awaits h hleft
  · obtain ⟨p', hp', rfl⟩ := stepsAmid_attempt hq
    exact .inl ⟨p', hp', awaits_of_awaits_attempt hawaits⟩
  · obtain ⟨q, hq, hdone⟩ := stepsAmid_attempt hr
    obtain rfl := eq_ofExcept_of_attempt_eq_done hdone.symm
    exact .inr ⟨r, s₁, hq, hsecond⟩

end Parts

/-! ### Runs as steps -/

/-- What a run leaves is what steps lead to: its result, or a program that waits. -/
def Plays (handle : Handler I σ) (awaited : I.Call → Prop) (p : Program I ε α) (s : σ) :
    Outcome ε α σ → Prop
  | (some r, s') => Steps handle p s (ofExcept r) s'
  | (none, s') => ∃ q, Steps handle p s q s' ∧ q.Awaits awaited

theorem Plays.behind {p q : Program I ε α} {s s' : σ} {o : Outcome ε α σ}
    (h : Plays handle awaited q s' o) (hsteps : Steps handle p s q s') :
  Plays handle awaited p s o
  := by
  obtain ⟨_ | r, s''⟩ := o
  · obtain ⟨q', hq', hawaits⟩ := h
    exact ⟨q', hsteps.trans hq', hawaits⟩
  · exact hsteps.trans h

section Together

variable {n : Nat} {tasks : Fin n → Program I ε β} {next : Except ε (List β) → Program I ε α}
  {s s' : σ}

theorem steps_task {i : Fin n} {p : Program I ε β} (h : Steps handle (tasks i) s p s') :
  Steps handle (together n tasks next) s (together n (Function.update tasks i p) next) s'
  := by
  induction h with
  | refl =>
      rw [Function.update_eq_self]
      exact .refl
  | step _ hstep ih =>
      have htask := ih.step (.task (i := i) (by rw [Function.update_self]; exact hstep))
      rw [Function.update_idem] at htask
      exact htask
  | other _ hc => exact hc.elim

/-- What is left of a group when some of its tasks were run one after the other. -/
structure Leaves (handle : Handler I σ) (awaited : I.Call → Prop)
    (tasks : Fin n → Program I ε β) (next : Except ε (List β) → Program I ε α)
    (places : List (Fin n)) (s : σ) (left : Fin n → Program I ε β) (s' : σ) : Prop where
  steps : Steps handle (together n tasks next) s (together n left next) s'
  left_eq : ∀ i, i ∉ places → left i = tasks i
  rests : ∀ i, Rests awaited (tasks i) (left i)

theorem leaves_nil (s : σ) :
  Leaves handle awaited tasks next [] s tasks s
  := ⟨.refl, fun _ _ => rfl, fun _ => .inl rfl⟩

section Cons

variable {i : Fin n} {places : List (Fin n)} {p : Program I ε β}

theorem leaves_task (h : Steps handle (tasks i) s p s') (hp : p.Awaits awaited ∨ p.IsOver)
    (places : List (Fin n)) :
  Leaves handle awaited tasks next (i :: places) s (Function.update tasks i p) s'
  where
    steps := steps_task h
    left_eq := by
      intro j hj
      rw [List.mem_cons, not_or] at hj
      exact Function.update_of_ne hj.1 _ _
    rests := by
      intro j
      rw [Function.update_apply]
      split_ifs
      · exact .inr hp
      · exact .inl rfl

theorem Leaves.cons {left : Fin n → Program I ε β} {s₁ : σ} (hi : i ∉ places)
    (hfirst : Steps handle (tasks i) s p s₁) (hp : p.Awaits awaited ∨ p.IsOver)
    (h : Leaves handle awaited (Function.update tasks i p) next places s₁ left s') :
  Leaves handle awaited tasks next (i :: places) s left s' ∧ left i = p
  := by
  have hleft : left i = p := by rw [h.left_eq i hi, Function.update_self]
  refine ⟨⟨(steps_task hfirst).trans h.steps, ?_, ?_⟩, hleft⟩
  · intro j hj
    rw [List.mem_cons, not_or] at hj
    rw [h.left_eq j hj.2, Function.update_of_ne hj.1]
  · intro j
    by_cases hj : j = i
    · rw [hj, hleft]
      exact .inr hp
    · have hrests := h.rests j
      rw [Function.update_of_ne hj] at hrests
      exact hrests

end Cons

/-- What is left of tasks that were run behind one that waits. -/
inductive PlaysBehind (handle : Handler I σ) (awaited : I.Call → Prop)
    (tasks : Fin n → Program I ε β) (next : Except ε (List β) → Program I ε α)
    (places : List (Fin n)) (s : σ) : Outcome ε (List β) σ → Prop where
  | failed {left : Fin n → Program I ε β} {s' : σ} {i : Fin n} {e : ε}
    (h : Leaves handle awaited tasks next places s left s') (hfailed : left i = fail e) :
    PlaysBehind handle awaited tasks next places s (some (.error e), s')
  | waiting {left : Fin n → Program I ε β} {s' : σ}
    (h : Leaves handle awaited tasks next places s left s')
    (hleft : ∀ i ∈ places, (left i).Awaits awaited ∨ (left i).IsOver) :
    PlaysBehind handle awaited tasks next places s (none, s')

/-- What is left of tasks that were run. -/
inductive PlaysAll (handle : Handler I σ) (awaited : I.Call → Prop)
    (tasks : Fin n → Program I ε β) (next : Except ε (List β) → Program I ε α)
    (places : List (Fin n)) (s : σ) : Outcome ε (List β) σ → Prop where
  | finished {left : Fin n → Program I ε β} {s' : σ} {values : List β}
    (h : Leaves handle awaited tasks next places s left s')
    (hdone : places.map left = values.map done) :
    PlaysAll handle awaited tasks next places s (some (.ok values), s')
  | failed {left : Fin n → Program I ε β} {s' : σ} {i : Fin n} {e : ε}
    (h : Leaves handle awaited tasks next places s left s') (hfailed : left i = fail e) :
    PlaysAll handle awaited tasks next places s (some (.error e), s')
  | waiting {left : Fin n → Program I ε β} {s' : σ}
    (h : Leaves handle awaited tasks next places s left s')
    (hwaits : ∃ i ∈ places, (left i).Awaits awaited)
    (hleft : ∀ i ∈ places, (left i).Awaits awaited ∨ (left i).IsOver) :
    PlaysAll handle awaited tasks next places s (none, s')

/-- Runs of the other tasks are the same when one task is replaced. -/
theorem map_run_update {i : Fin n} {places : List (Fin n)} (hi : i ∉ places)
    (p : Program I ε β) :
  (places.map fun j => (Function.update tasks i p j).run handle)
    = places.map fun j => (tasks j).run handle
  := by
  apply List.map_congr_left
  intro j hj
  rw [Function.update_of_ne (ne_of_mem_of_not_mem hj hi)]

section Cons

variable {i : Fin n} {places : List (Fin n)} {p : Program I ε β} {s₁ : σ}
  {o : Outcome ε (List β) σ}

theorem PlaysBehind.cons (hi : i ∉ places) (hfirst : Steps handle (tasks i) s p s₁)
    (hp : p.Awaits awaited ∨ p.IsOver)
    (h : PlaysBehind handle awaited (Function.update tasks i p) next places s₁ o) :
  PlaysBehind handle awaited tasks next (i :: places) s o
  := by
  cases h with
  | failed h hfailed => exact .failed (h.cons hi hfirst hp).1 hfailed
  | waiting h hleft =>
      obtain ⟨hcons, hplace⟩ := h.cons hi hfirst hp
      apply PlaysBehind.waiting hcons
      rw [List.forall_mem_cons, hplace]
      exact ⟨hp, hleft⟩

theorem PlaysBehind.playsAll_cons (hi : i ∉ places) (hfirst : Steps handle (tasks i) s p s₁)
    (hp : p.Awaits awaited)
    (h : PlaysBehind handle awaited (Function.update tasks i p) next places s₁ o) :
  PlaysAll handle awaited tasks next (i :: places) s o
  := by
  cases h with
  | failed h hfailed => exact .failed (h.cons hi hfirst (.inl hp)).1 hfailed
  | waiting h hleft =>
      obtain ⟨hcons, hplace⟩ := h.cons hi hfirst (.inl hp)
      apply PlaysAll.waiting hcons
      · exact ⟨i, List.mem_cons_self, hplace ▸ hp⟩
      · rw [List.forall_mem_cons, hplace]
        exact ⟨.inl hp, hleft⟩

end Cons

theorem plays_settleBehind (eager : Bool) {places : List (Fin n)} (hnodup : places.Nodup)
    (htasks : ∀ i ∈ places, ∀ s, Plays handle awaited (tasks i) s ((tasks i).run handle s)) :
  PlaysBehind handle awaited tasks next places s
    (settleBehind eager (places.map fun i => (tasks i).run handle) s)
  := by
  induction places generalizing tasks s with
  | nil => exact .waiting (leaves_nil s) (List.forall_mem_nil _)
  | cons i rest ih =>
      obtain ⟨hi, hrest⟩ := List.nodup_cons.mp hnodup
      obtain ⟨htask, htasks⟩ := List.forall_mem_cons.mp htasks
      have hbehind : ∀ {p : Program I ε β} {s₁ : σ}, Steps handle (tasks i) s p s₁ →
          p.Awaits awaited ∨ p.IsOver → PlaysBehind handle awaited tasks next (i :: rest) s
            (settleBehind eager (rest.map fun j => (tasks j).run handle) s₁) := by
        intro p s₁ hfirst hp
        rw [← map_run_update hi p]
        apply PlaysBehind.cons hi hfirst hp
        apply ih hrest
        intro j hj
        rw [Function.update_of_ne (ne_of_mem_of_not_mem hj hi)]
        exact htasks j hj
      have hplays := htask s
      rw [List.map_cons, settleBehind]
      cases hrun : (tasks i).run handle s with
      | mk r s₁ =>
          rw [hrun] at hplays
          obtain _ | e | a := r
          · obtain ⟨q, hq, hawaits⟩ := hplays
            exact hbehind hq (.inl hawaits)
          · cases eager with
            | true =>
                exact .failed (leaves_task hplays (.inr trivial) rest) (Function.update_self _ _ _)
            | false => exact hbehind hplays (.inr trivial)
          · exact hbehind hplays (.inr trivial)

theorem plays_settle (eager : Bool) {places : List (Fin n)} (hnodup : places.Nodup)
    (htasks : ∀ i ∈ places, ∀ s, Plays handle awaited (tasks i) s ((tasks i).run handle s)) :
  PlaysAll handle awaited tasks next places s
    (settle eager (places.map fun i => (tasks i).run handle) s)
  := by
  induction places generalizing tasks s with
  | nil => exact .finished (leaves_nil s) rfl
  | cons i rest ih =>
      obtain ⟨hi, hrest⟩ := List.nodup_cons.mp hnodup
      obtain ⟨htask, htasks⟩ := List.forall_mem_cons.mp htasks
      have hothers : ∀ p, ∀ j ∈ rest, ∀ s, Plays handle awaited (Function.update tasks i p j) s
          ((Function.update tasks i p j).run handle s) := by
        intro p j hj
        rw [Function.update_of_ne (ne_of_mem_of_not_mem hj hi)]
        exact htasks j hj
      have hplays := htask s
      rw [List.map_cons, settle]
      cases hrun : (tasks i).run handle s with
      | mk r s₁ =>
          rw [hrun] at hplays
          obtain _ | e | a := r
          · obtain ⟨q, hq, hawaits⟩ := hplays
            rw [← map_run_update hi q]
            exact (plays_settleBehind eager hrest (hothers q)).playsAll_cons hi hq hawaits
          · exact .failed (leaves_task hplays (.inr trivial) rest) (Function.update_self _ _ _)
          · have hall := ih (s := s₁) hrest (hothers (done a))
            rw [map_run_update hi (done a)] at hall
            cases hsettle : settle eager (rest.map fun j => (tasks j).run handle) s₁ with
            | mk r s₂ =>
                rw [hsettle] at hall
                simp only [hsettle]
                cases hall with
                | finished h hdone =>
                    obtain ⟨hcons, hplace⟩ := h.cons hi hplays (.inr trivial)
                    apply PlaysAll.finished hcons
                    rw [List.map_cons, List.map_cons, hplace, hdone, ofExcept]
                | failed h hfailed => exact .failed (h.cons hi hplays (.inr trivial)).1 hfailed
                | waiting h hwaits hleft =>
                    obtain ⟨hcons, hplace⟩ := h.cons hi hplays (.inr trivial)
                    obtain ⟨j, hj, hawaits⟩ := hwaits
                    apply PlaysAll.waiting hcons
                    · exact ⟨j, List.mem_cons_of_mem i hj, hawaits⟩
                    · rw [List.forall_mem_cons, hplace]
                      exact ⟨.inr trivial, hleft⟩

theorem exists_values_of_map_eq {values : List β}
    (h : (List.finRange n).map tasks = values.map done) :
  ∃ f : Fin n → β, (∀ i, tasks i = done (f i)) ∧ List.ofFn f = values
  := by
  have hlength : values.length = n := by
    have hlengths := congrArg List.length h
    rw [List.length_map, List.length_map, List.length_finRange] at hlengths
    exact hlengths.symm
  subst hlength
  refine ⟨fun i => values[i], ?_, List.ofFn_getElem⟩
  intro i
  have hget := List.getElem_of_eq h (i := i) (by simp)
  simpa using hget

end Together

/-- The run of a program is one of the ways to interleave its calls.  Where it is left without an
answer, it is left at a moment at which the program waits. -/
theorem plays_run (hanswers : ∀ c s, ¬ awaited c → ∃ x s', handle c s = (some x, s'))
    (p : Program I ε α) (s : σ) :
  Plays handle awaited p s (p.run handle s)
  := by
  induction p generalizing s with
  | done a => exact .refl
  | fail e => exact .refl
  | call c next ih =>
      rw [run]
      cases hcall : handle c s with
      | mk x s₁ =>
          cases x with
          | none =>
              refine ⟨call c next, .step .refl (.idle hcall), ?_⟩
              by_contra hc
              obtain ⟨x, s', hanswer⟩ := hanswers c s hc
              rw [hcall] at hanswer
              cases hanswer
          | some x => exact (ih x s₁).behind (.step .refl (.call hcall))
  | together n tasks next ihTasks ihNext =>
      have hall : PlaysAll handle awaited tasks next (List.finRange n) s _ :=
        plays_settle (n ≤ eagerGroup) (List.nodup_finRange n) fun i _ => ihTasks i
      rw [run, List.ofFn_eq_map]
      cases hsettle : settle (n ≤ eagerGroup)
          ((List.finRange n).map fun i => (tasks i).run handle) s with
      | mk r s₁ =>
          rw [hsettle] at hall
          cases hall with
          | finished h hdone =>
              obtain ⟨values, hvalues, rfl⟩ := exists_values_of_map_eq hdone
              exact (ihNext _ s₁).behind (h.steps.step (.finished hvalues))
          | failed h hfailed => exact (ihNext _ s₁).behind (h.steps.step (.failed hfailed))
          | waiting h hwaits hleft =>
              obtain ⟨i, -, hawaits⟩ := hwaits
              exact ⟨_, h.steps, ⟨i, hawaits⟩, fun j => hleft j (List.mem_finRange j)⟩

/-- The tasks of a group that is run and comes to a result are left at rest. -/
theorem exists_settles_of_run (hanswers : ∀ c s, ¬ awaited c → ∃ x s', handle c s = (some x, s'))
    {tasks : List (Program I ε α)} {r : Except ε (List α)} {s s' : σ}
    (hrun : (all tasks).run handle s = (some r, s')) :
  ∃ left : Fin tasks.length → Program I ε α,
    Steps handle (all tasks) s (together tasks.length left ofExcept) s'
      ∧ (∀ i, Rests awaited (tasks.get i) (left i)) ∧ Settles left r
  := by
  have hall : PlaysAll handle awaited tasks.get ofExcept (List.finRange tasks.length) s _ :=
    plays_settle (tasks.length ≤ eagerGroup) (List.nodup_finRange tasks.length)
      fun i _ => plays_run hanswers _
  rw [all, run, List.ofFn_eq_map] at hrun
  cases hsettle : settle (tasks.length ≤ eagerGroup)
      ((List.finRange tasks.length).map fun i => (tasks.get i).run handle) s with
  | mk r' s₁ =>
      rw [hsettle] at hall hrun
      cases hall with
      | finished h hdone =>
          cases hrun
          obtain ⟨values, hvalues, rfl⟩ := exists_values_of_map_eq hdone
          exact ⟨_, h.steps, h.rests, .finished hvalues⟩
      | failed h hfailed =>
          cases hrun
          exact ⟨_, h.steps, h.rests, .failed hfailed⟩
      | waiting => cases hrun

end JoinBench.Program
