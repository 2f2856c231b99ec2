import JoinBench.Proofs.Program.Calls
import Mathlib.Logic.Function.Basic

/-!
# Programs step by step

A program makes its calls one at a time, and of the tasks that it started together any may be next.
A call that gets no answer is made again later, and may leave its trace in the state each time.  So
the steps of a program are all the ways of interleaving the calls of its tasks, also those that are
cut off anywhere.

`StepsAmid handle others p s q s'` says that steps lead from the program `p` in the state `s` to
what is left of it, `q`, in the state `s'`, while calls in `others` may come in between.  Each of
the tasks that were started together steps amid the calls of the other ones.
-/

namespace JoinBench

namespace Program

variable {I : Interface} {ε α β σ : Type} {handle : Handler I σ}

/-! ### Steps -/

/-- A program and a state, and what is left of them behind one step. -/
inductive Step (handle : Handler I σ) :
    {α : Type} → Program I ε α → σ → Program I ε α → σ → Prop where
  | call {α : Type} {c : I.Call} {next : I.Answer c → Program I ε α} {x : I.Answer c} {s s' : σ}
      (h : handle c s = (some x, s')) : Step handle (call c next) s (next x) s'
  /-- A call gets no answer. -/
  | idle {α : Type} {c : I.Call} {next : I.Answer c → Program I ε α} {s s' : σ}
      (h : handle c s = (none, s')) : Step handle (call c next) s (call c next) s'
  /-- One of the tasks makes a step. -/
  | task {α β : Type} {n : Nat} {tasks : Fin n → Program I ε β}
      {next : Except ε (List β) → Program I ε α} {i : Fin n} {p : Program I ε β} {s s' : σ}
      (h : Step handle (tasks i) s p s') :
      Step handle (together n tasks next) s (together n (Function.update tasks i p) next) s'
  /-- One of the tasks has failed, and the others are dropped where they stand. -/
  | failed {α β : Type} {n : Nat} {tasks : Fin n → Program I ε β}
      {next : Except ε (List β) → Program I ε α} {i : Fin n} {e : ε} {s : σ}
      (h : tasks i = fail e) : Step handle (together n tasks next) s (next (.error e)) s
  | finished {α β : Type} {n : Nat} {tasks : Fin n → Program I ε β}
      {next : Except ε (List β) → Program I ε α} {values : Fin n → β} {s : σ}
      (h : ∀ i, tasks i = done (values i)) :
      Step handle (together n tasks next) s (next (.ok (List.ofFn values))) s

/-- Steps lead from a program and a state to what is left of them, while certain other calls may
come in between. -/
inductive StepsAmid (handle : Handler I σ) (others : I.Call → Prop) (p : Program I ε α) (s : σ) :
    Program I ε α → σ → Prop where
  | refl : StepsAmid handle others p s p s
  | step {q r : Program I ε α} {s' s'' : σ} (h : StepsAmid handle others p s q s')
      (hstep : Step handle q s' r s'') : StepsAmid handle others p s r s''
  | other {q : Program I ε α} {s' : σ} {c : I.Call} (h : StepsAmid handle others p s q s')
      (hc : others c) : StepsAmid handle others p s q (handle c s').2

/-- Steps lead from a program and a state to what is left of them. -/
abbrev Steps (handle : Handler I σ) (p : Program I ε α) (s : σ) (q : Program I ε α) (s' : σ) :
    Prop :=
  StepsAmid handle (fun _ => False) p s q s'

variable {others : I.Call → Prop} {p q : Program I ε α} {s s' s'' : σ}

theorem StepsAmid.trans {r : Program I ε α} (h : StepsAmid handle others p s q s')
    (h' : StepsAmid handle others q s' r s'') :
  StepsAmid handle others p s r s''
  := by
  induction h' with
  | refl => exact h
  | step _ hstep ih => exact .step ih hstep
  | other _ hc ih => exact .other ih hc

/-! ### Programs that are over -/

/-- The program makes no further calls. -/
def IsOver : Program I ε α → Prop
  | done _ => True
  | fail _ => True
  | call _ _ => False
  | together _ _ _ => False

theorem isOver_iff :
  p.IsOver ↔ ∃ r, p = ofExcept r
  := by
  constructor
  · intro h
    cases p with
    | done a => exact ⟨.ok a, rfl⟩
    | fail e => exact ⟨.error e, rfl⟩
    | call | together => cases h
  · rintro ⟨e | a, rfl⟩ <;> trivial

theorem ofExcept_inj {r r' : Except ε α} :
  (ofExcept r : Program I ε α) = ofExcept r' ↔ r = r'
  := by
  constructor
  · intro h
    cases r <;> cases r' <;> cases h <;> rfl
  · exact congrArg ofExcept

theorem IsOver.not_step (h : p.IsOver) :
  ¬ Step handle p s q s'
  := by
  intro hstep
  cases hstep <;> cases h

/-- A program that is over stays so, whatever comes in between. -/
theorem StepsAmid.eq_of_isOver (hp : p.IsOver) (h : StepsAmid handle others p s q s') :
  q = p
  := by
  induction h with
  | refl => rfl
  | step _ hstep ih =>
      rw [ih] at hstep
      exact (hp.not_step hstep).elim
  | other _ _ ih => exact ih

/-! ### Programs made of parts -/

theorem step_bind {f : α → Program I ε β} {r : Program I ε β}
    (h : Step handle (p.bind f) s r s') :
  (∃ q, Step handle p s q s' ∧ r = q.bind f) ∨ ∃ a, p = done a ∧ Step handle (f a) s r s'
  := by
  cases p with
  | done a => exact .inr ⟨a, rfl, h⟩
  | fail e => cases h
  | call c next =>
      left
      cases h with
      | call h => exact ⟨_, .call h, rfl⟩
      | idle h => exact ⟨_, .idle h, rfl⟩
  | together n tasks next =>
      left
      cases h with
      | task h => exact ⟨_, .task h, rfl⟩
      | failed h => exact ⟨_, .failed h, rfl⟩
      | finished h => exact ⟨_, .finished h, rfl⟩

/-- Either the first part is under way, or it is done and the second part is. -/
theorem stepsAmid_bind {f : α → Program I ε β} {r : Program I ε β}
    (h : StepsAmid handle others (p.bind f) s r s') :
  (∃ q, StepsAmid handle others p s q s' ∧ r = q.bind f)
    ∨ ∃ a s₁, StepsAmid handle others p s (done a) s₁ ∧ StepsAmid handle others (f a) s₁ r s'
  := by
  induction h with
  | refl => exact .inl ⟨p, .refl, rfl⟩
  | step _ hstep ih =>
      obtain ⟨q, hq, rfl⟩ | ⟨a, s₁, ha, hr⟩ := ih
      · obtain ⟨q', hstep', rfl⟩ | ⟨a, rfl, hstep'⟩ := step_bind hstep
        · exact .inl ⟨q', .step hq hstep', rfl⟩
        · exact .inr ⟨a, _, hq, .step .refl hstep'⟩
      · exact .inr ⟨a, s₁, ha, .step hr hstep⟩
  | other _ hc ih =>
      obtain ⟨q, hq, rfl⟩ | ⟨a, s₁, ha, hr⟩ := ih
      · exact .inl ⟨q, .other hq hc, rfl⟩
      · exact .inr ⟨a, s₁, ha, .other hr hc⟩

theorem step_attempt {r : Program I ε (Except ε α)} (h : Step handle p.attempt s r s') :
  ∃ q, Step handle p s q s' ∧ r = q.attempt
  := by
  cases p with
  | done | fail => cases h
  | call c next =>
      cases h with
      | call h => exact ⟨_, .call h, rfl⟩
      | idle h => exact ⟨_, .idle h, rfl⟩
  | together n tasks next =>
      cases h with
      | task h => exact ⟨_, .task h, rfl⟩
      | failed h => exact ⟨_, .failed h, rfl⟩
      | finished h => exact ⟨_, .finished h, rfl⟩

theorem stepsAmid_attempt {r : Program I ε (Except ε α)}
    (h : StepsAmid handle others p.attempt s r s') :
  ∃ q, StepsAmid handle others p s q s' ∧ r = q.attempt
  := by
  induction h with
  | refl => exact ⟨p, .refl, rfl⟩
  | step _ hstep ih =>
      obtain ⟨q, hq, rfl⟩ := ih
      obtain ⟨q', hstep', rfl⟩ := step_attempt hstep
      exact ⟨q', .step hq hstep', rfl⟩
  | other _ hc ih =>
      obtain ⟨q, hq, rfl⟩ := ih
      exact ⟨q, .other hq hc, rfl⟩

theorem eq_ofExcept_of_attempt_eq_done {r : Except ε α} (h : p.attempt = done r) :
  p = ofExcept r
  := by
  cases p with
  | done | fail =>
      cases h
      rfl
  | call | together => cases h

/-- A call is waited for in states of one kind, and answered it leads to states of another. -/
theorem stepsAmid_call {c : I.Call} {next : I.Answer c → Program I ε α} {pre : σ → Prop}
    {post : I.Answer c → σ → Prop} (hothers : ∀ c' s, others c' → pre s → pre (handle c' s).2)
    (hidle : ∀ s s', pre s → handle c s = (none, s') → pre s')
    (hanswer : ∀ s x s', pre s → handle c s = (some x, s') → post x s') (hs : pre s)
    (h : StepsAmid handle others (call c next) s q s') :
  (q = call c next ∧ pre s')
    ∨ ∃ x s₁, post x s₁ ∧ StepsAmid handle others (next x) s₁ q s'
  := by
  induction h with
  | refl => exact .inl ⟨rfl, hs⟩
  | step _ hstep ih =>
      obtain ⟨rfl, hpre⟩ | ⟨x, s₁, hpost, hq⟩ := ih
      · cases hstep with
        | call hcall => exact .inr ⟨_, _, hanswer _ _ _ hpre hcall, .refl⟩
        | idle hcall => exact .inl ⟨rfl, hidle _ _ hpre hcall⟩
      · exact .inr ⟨x, s₁, hpost, .step hq hstep⟩
  | other _ hc ih =>
      obtain ⟨rfl, hpre⟩ | ⟨x, s₁, hpost, hq⟩ := ih
      · exact .inl ⟨rfl, hothers _ _ hc hpre⟩
      · exact .inr ⟨x, s₁, hpost, .other hq hc⟩

/-! ### What steps keep -/

section Keeping

variable {P : I.Call → Prop}

theorem Step.makes (h : Step handle p s q s') (hp : p.Makes P) :
  q.Makes P
  := by
  induction h with
  | call h => exact hp.2 _
  | idle h => exact hp
  | task h ih =>
      constructor
      · intro i
        rw [Function.update_apply]
        split_ifs with hi
        · exact ih (hp.1 _)
        · exact hp.1 i
      · exact hp.2
  | failed h | finished h => exact hp.2 _

/-- A step is one of the calls of the program, or leaves the state alone. -/
theorem Step.exists_call (h : Step handle p s q s') (hp : p.Makes P) :
  s' = s ∨ ∃ c, P c ∧ s' = (handle c s).2
  := by
  induction h with
  | call h => exact .inr ⟨_, hp.1, (congrArg Prod.snd h).symm⟩
  | idle h => exact .inr ⟨_, hp.1, (congrArg Prod.snd h).symm⟩
  | task h ih => exact ih (hp.1 _)
  | failed h | finished h => exact .inl rfl

theorem StepsAmid.makes (h : StepsAmid handle others p s q s') (hp : p.Makes P) :
  q.Makes P
  := by
  induction h with
  | refl => exact hp
  | step _ hstep ih => exact hstep.makes ih
  | other _ _ ih => exact ih

/-- What every call keeps, of the program and of the others, is kept by steps. -/
theorem StepsAmid.keeps (inv : σ → Prop) (h : StepsAmid handle others p s q s') (hp : p.Makes P)
    (hkeeps : ∀ c s, P c → inv s → inv (handle c s).2)
    (hothers : ∀ c s, others c → inv s → inv (handle c s).2) (hs : inv s) :
  inv s'
  := by
  induction h with
  | refl => exact hs
  | step hq hstep ih =>
      obtain rfl | ⟨c, hc, rfl⟩ := hstep.exists_call (hq.makes hp)
      · exact ih
      · exact hkeeps c _ hc ih
  | other _ hc ih => exact hothers _ _ hc ih

end Keeping

/-! ### Tasks that were started together -/

section Together

variable {n : Nat} {tasks : Fin n → Program I ε β} {next : Except ε (List β) → Program I ε α}
  {P : Fin n → I.Call → Prop}

/-- The calls of the other tasks. -/
def OfOthers (P : Fin n → I.Call → Prop) (i : Fin n) (c : I.Call) : Prop :=
  ∃ j, j ≠ i ∧ P j c

/-- What the tasks come to as a whole: the values of all of them, or the error of one. -/
inductive Settles (tasks : Fin n → Program I ε β) : Except ε (List β) → Prop where
  | finished {values : Fin n → β} (h : ∀ i, tasks i = done (values i)) :
    Settles tasks (.ok (List.ofFn values))
  | failed {i : Fin n} {e : ε} (h : tasks i = fail e) : Settles tasks (.error e)

/-- Each task steps amid the calls of the others; what they come to as a whole is gone on with. -/
theorem steps_together (hp : ∀ i, (tasks i).Makes (P i))
    (h : Steps handle (together n tasks next) s q s') :
  ∃ left s₁, (∀ i, StepsAmid handle (OfOthers P i) (tasks i) s (left i) s₁)
    ∧ ((q = together n left next ∧ s' = s₁)
      ∨ ∃ r, Settles left r ∧ Steps handle (next r) s₁ q s')
  := by
  induction h with
  | refl => exact ⟨tasks, s, fun _ => .refl, .inl ⟨rfl, rfl⟩⟩
  | @step q r s₂ s₃ _ hstep ih =>
      obtain ⟨left, s₁, hleft, ⟨rfl, rfl⟩ | ⟨x, hsettles, hq⟩⟩ := ih
      · cases hstep with
        | @task _ _ _ _ _ i p _ _ htask =>
            refine ⟨Function.update left i p, s₃, ?_, .inl ⟨rfl, rfl⟩⟩
            intro j
            rw [Function.update_apply]
            split_ifs with hj
            · rw [hj]
              exact .step (hleft i) htask
            · obtain rfl | ⟨c, hc, rfl⟩ := htask.exists_call ((hleft i).makes (hp i))
              · exact hleft j
              · exact .other (hleft j) ⟨i, Ne.symm hj, hc⟩
        | failed htask => exact ⟨left, _, hleft, .inr ⟨_, .failed htask, .refl⟩⟩
        | finished htasks => exact ⟨left, _, hleft, .inr ⟨_, .finished htasks, .refl⟩⟩
      · exact ⟨left, s₁, hleft, .inr ⟨x, hsettles, .step hq hstep⟩⟩
  | other _ hc => exact hc.elim

end Together

end Program

end JoinBench
