import JoinBench.Proofs.Program.Moments

/-!
# Contracts

A contract is between a program and whoever answers it: which calls are made, what they are
answered and which errors a program may fail with.  `Honours k p V` says that the program `p` keeps
its side of the contract `k` as long as it is answered by it, and that its value satisfies `V`.

A handler upholds a contract out of states that are fine, and leaves such states.  What is left of
a program behind any of its steps still honours the contract then, so this holds of every way to
interleave the calls of its tasks, and wherever it is cut off.
-/

namespace JoinBench

/-- What a program asks for, what it is answered, and how it may fail. -/
structure Contract (I : Interface) (ε : Type) where
  asks : I.Call → Prop
  answers : (c : I.Call) → I.Answer c → Prop
  fails : ε → Prop

namespace Contract

variable {I : Interface} {ε α β σ : Type}

/-- The results that a contract allows where values have to satisfy `V`. -/
def Allows (k : Contract I ε) (V : α → Prop) : Except ε α → Prop
  | .ok a => V a
  | .error e => k.fails e

/-- Calls of the contract are answered by it out of fine states, which leaves fine states. -/
structure IsUpheld (k : Contract I ε) (handle : Handler I σ) (fine : σ → Prop) : Prop where
  keeps : ∀ c s, k.asks c → fine s → fine (handle c s).2
  answers : ∀ c s x s', k.asks c → fine s → handle c s = (some x, s') → k.answers c x

end Contract

namespace Program

variable {I : Interface} {ε α β σ : Type} {k : Contract I ε} {V : α → Prop} {W : β → Prop}

/-- The program makes calls of the contract only, fails with its errors only and has values that
satisfy `V`, as long as it is answered by the contract.  Of tasks that are started together it is
enough that their values satisfy the same `W`, whichever of them fails first. -/
def Honours (k : Contract I ε) {α : Type} : Program I ε α → (α → Prop) → Prop
  | done a, V => V a
  | fail e, _ => k.fails e
  | call c next, V => k.asks c ∧ ∀ x, k.answers c x → Honours k (next x) V
  | together _ tasks next, V =>
    ∃ W, (∀ i, Honours k (tasks i) W) ∧ ∀ r, k.Allows (∀ b ∈ ·, W b) r → Honours k (next r) V

theorem Honours.mono {V' : α → Prop} {p : Program I ε α} (h : p.Honours k V)
    (hV : ∀ a, V a → V' a) :
  p.Honours k V'
  := by
  induction p with
  | done a => exact hV a h
  | fail e => exact h
  | call c next ih => exact ⟨h.1, fun x hx => ih x (h.2 x hx) hV⟩
  | together n tasks next _ ih =>
      obtain ⟨W, htasks, hnext⟩ := h
      exact ⟨W, htasks, fun r hr => ih r (hnext r hr) hV⟩

/-! ### One rule for each way of making a program -/

theorem honours_pure {a : α} (h : V a) :
  (pure a : Program I ε α).Honours k V
  := h

theorem honours_throw {e : ε} (h : k.fails e) :
  (throw e : Program I ε α).Honours k V
  := h

theorem honours_ofExcept_iff {r : Except ε α} :
  (ofExcept r : Program I ε α).Honours k V ↔ k.Allows V r
  := by
  cases r <;> exact Iff.rfl

theorem honours_bind {p : Program I ε α} {f : α → Program I ε β} (hp : p.Honours k V)
    (hf : ∀ a, V a → (f a).Honours k W) :
  (p >>= f).Honours k W
  := by
  induction p with
  | done a => exact hf a hp
  | fail e => exact hp
  | call c next ih => exact ⟨hp.1, fun x hx => ih x (hp.2 x hx) hf⟩
  | together n tasks next _ ih =>
      obtain ⟨X, htasks, hnext⟩ := hp
      exact ⟨X, htasks, fun r hr => ih r (hnext r hr) hf⟩

theorem honours_attempt {p : Program I ε α} (hp : p.Honours k V) :
  p.attempt.Honours k (k.Allows V)
  := by
  induction p with
  | done a => exact hp
  | fail e => exact hp
  | call c next ih => exact ⟨hp.1, fun x hx => ih x (hp.2 x hx)⟩
  | together n tasks next _ ih =>
      obtain ⟨X, htasks, hnext⟩ := hp
      exact ⟨X, htasks, fun r hr => ih r (hnext r hr)⟩

theorem honours_check {c : Prop} [Decidable c] {e : ε} {next : PUnit → Program I ε α}
    (herror : k.fails e) (h : (next ⟨⟩).Honours k V) :
  (if c then throw e >>= next else next ⟨⟩ : Program I ε α).Honours k V
  := by
  split_ifs
  · exact herror
  · exact h

theorem honours_all {tasks : List (Program I ε α)} (h : ∀ p ∈ tasks, p.Honours k V) :
  (all tasks).Honours k (∀ a ∈ ·, V a)
  := ⟨V, fun i => h _ (tasks.get_mem i), fun _ => honours_ofExcept_iff.mpr⟩

theorem honours_forEach {f : β → Program I ε Unit} {items : List β}
    (h : ∀ x ∈ items, (f x).Honours k fun _ => True) :
  (forEach f items).Honours k fun _ => True
  := by
  induction items with
  | nil => trivial
  | cons x rest ih =>
      obtain ⟨hx, hrest⟩ := List.forall_mem_cons.mp h
      exact honours_bind hx fun _ _ => ih hrest

/-! ### What steps keep -/

variable {handle : Handler I σ} {fine : σ → Prop} {p q : Program I ε α} {s s' : σ}

theorem Step.honours (hhandle : k.IsUpheld handle fine) (h : Step handle p s q s')
    (hp : p.Honours k V) (hs : fine s) :
  q.Honours k V ∧ fine s'
  := by
  induction h with
  | call h =>
      have hkeeps := hhandle.keeps _ _ hp.1 hs
      rw [h] at hkeeps
      exact ⟨hp.2 _ (hhandle.answers _ _ _ _ hp.1 hs h), hkeeps⟩
  | idle h =>
      have hkeeps := hhandle.keeps _ _ hp.1 hs
      rw [h] at hkeeps
      exact ⟨hp, hkeeps⟩
  | task h ih =>
      obtain ⟨W, htasks, hnext⟩ := hp
      obtain ⟨htask, hs'⟩ := ih (htasks _) hs
      refine ⟨⟨W, ?_, hnext⟩, hs'⟩
      intro i
      rw [Function.update_apply]
      split_ifs
      · exact htask
      · exact htasks i
  | @failed _ _ _ _ _ i e _ h =>
      obtain ⟨W, htasks, hnext⟩ := hp
      have htask := htasks i
      rw [h] at htask
      exact ⟨hnext _ htask, hs⟩
  | @finished _ _ _ _ _ values _ h =>
      obtain ⟨W, htasks, hnext⟩ := hp
      refine ⟨hnext _ ?_, hs⟩
      intro b hb
      obtain ⟨i, rfl⟩ := List.mem_ofFn.mp hb
      have htask := htasks i
      rw [h] at htask
      exact htask

/-- Behind any steps what is left of a program still honours its contract. -/
theorem Steps.honours (hhandle : k.IsUpheld handle fine) (h : Steps handle p s q s')
    (hp : p.Honours k V) (hs : fine s) :
  q.Honours k V ∧ fine s'
  := by
  induction h with
  | refl => exact ⟨hp, hs⟩
  | step _ hstep ih => exact hstep.honours hhandle ih.1 ih.2
  | other _ hc => exact hc.elim

/-- What the run of a program comes to is what its contract allows. -/
theorem allows_of_run (hhandle : k.IsUpheld handle fine) {r : Except ε α}
    (h : p.run handle s = (some r, s')) (hp : p.Honours k V) (hs : fine s) :
  k.Allows V r
  := by
  -- Any call may be left without an answer here.
  have hplays : Plays handle (fun _ => True) p s (p.run handle s) :=
    plays_run (fun _ _ hnot => absurd trivial hnot) p s
  rw [h] at hplays
  exact honours_ofExcept_iff.mp (Steps.honours hhandle hplays hp hs).1

end Program

end JoinBench
