import JoinBench.Program.Run
import Mathlib.Tactic.Common

/-!
# The calls of a program

`Makes P p` says that the program `p` makes no call outside `P`, however it is answered.  What
every such call keeps is kept by the whole run, also by a run that is left without an answer, and
so by a run that is cut off behind any number of calls.
-/

namespace JoinBench

namespace Program

variable {I : Interface} {ε α β σ : Type} {P : I.Call → Prop}

/-- Every call of the program satisfies `P`. -/
def Makes (P : I.Call → Prop) {α : Type} : Program I ε α → Prop
  | done _ => True
  | fail _ => True
  | call c next => P c ∧ ∀ x, Makes P (next x)
  | together _ tasks next => (∀ i, Makes P (tasks i)) ∧ ∀ r, Makes P (next r)

theorem Makes.mono {P' : I.Call → Prop} {p : Program I ε α} (h : p.Makes P)
    (hP : ∀ c, P c → P' c) :
  p.Makes P'
  := by
  induction p with
  | done a => trivial
  | fail e => trivial
  | call c next ih => exact ⟨hP c h.1, fun x => ih x (h.2 x)⟩
  | together n tasks next ihTasks ihNext =>
      exact ⟨fun i => ihTasks i (h.1 i), fun r => ihNext r (h.2 r)⟩

theorem makes_true (p : Program I ε α) :
  p.Makes fun _ => True
  := by
  induction p with
  | done | fail => trivial
  | call c next ih => exact ⟨trivial, ih⟩
  | together n tasks next ihTasks ihNext => exact ⟨ihTasks, ihNext⟩

/-! ### One rule for each way of making a program -/

theorem makes_bind {p : Program I ε α} {f : α → Program I ε β} (hp : p.Makes P)
    (hf : ∀ a, (f a).Makes P) :
  (p >>= f).Makes P
  := by
  induction p with
  | done a => apply hf
  | fail e => trivial
  | call c next ih => exact ⟨hp.1, fun x => ih x (hp.2 x) hf⟩
  | together n tasks next _ ih => exact ⟨hp.1, fun r => ih r (hp.2 r) hf⟩

theorem makes_attempt {p : Program I ε α} (hp : p.Makes P) :
  p.attempt.Makes P
  := by
  induction p with
  | done a => trivial
  | fail e => trivial
  | call c next ih => exact ⟨hp.1, fun x => ih x (hp.2 x)⟩
  | together n tasks next _ ih => exact ⟨hp.1, fun r => ih r (hp.2 r)⟩

theorem makes_pure (a : α) :
  (pure a : Program I ε α).Makes P
  := trivial

theorem makes_throw (e : ε) :
  (throw e : Program I ε α).Makes P
  := trivial

theorem makes_ofExcept (r : Except ε α) :
  (ofExcept r : Program I ε α).Makes P
  := by
  cases r <;> trivial

/-- A program behind a value that is given goes on with that value only. -/
theorem makes_bind_ofExcept {r : Except ε α} {f : α → Program I ε β}
    (h : ∀ a, r = .ok a → (f a).Makes P) :
  (ofExcept r >>= f).Makes P
  := by
  cases r with
  | error e => trivial
  | ok a => exact h a rfl

theorem makes_check {c : Prop} [Decidable c] {e : ε} {next : PUnit → Program I ε α}
    (h : (next ⟨⟩).Makes P) :
  (if c then throw e >>= next else next ⟨⟩ : Program I ε α).Makes P
  := by
  split_ifs
  · trivial
  · exact h

theorem makes_all {tasks : List (Program I ε α)} (h : ∀ p ∈ tasks, p.Makes P) :
  (all tasks).Makes P
  := ⟨fun i => h _ (tasks.get_mem i), makes_ofExcept⟩

theorem makes_forEach {f : β → Program I ε Unit} {items : List β} (h : ∀ x, (f x).Makes P) :
  (forEach f items).Makes P
  := by
  induction items with
  | nil => trivial
  | cons x rest ih => exact makes_bind (h x) fun _ => ih

/-! ### What a run keeps -/

theorem settleBehind_keeps {inv : σ → Prop} (eager : Bool) {tasks : List (σ → Outcome ε β σ)}
    (htasks : ∀ task ∈ tasks, ∀ s, inv s → inv (task s).2) {s : σ} (hs : inv s) :
  inv (settleBehind eager tasks s).2
  := by
  induction tasks generalizing s with
  | nil => exact hs
  | cons task rest ih =>
      obtain ⟨htask, hrest⟩ := List.forall_mem_cons.mp htasks
      have hbehind := htask s hs
      rw [settleBehind]
      split
      · rename_i heq
        rw [heq] at hbehind
        split_ifs
        · exact hbehind
        · apply ih hrest hbehind
      · rename_i heq
        rw [heq] at hbehind
        apply ih hrest hbehind

theorem settle_keeps {inv : σ → Prop} (eager : Bool) {tasks : List (σ → Outcome ε β σ)}
    (htasks : ∀ task ∈ tasks, ∀ s, inv s → inv (task s).2) {s : σ} (hs : inv s) :
  inv (settle eager tasks s).2
  := by
  induction tasks generalizing s with
  | nil => exact hs
  | cons task rest ih =>
      obtain ⟨htask, hrest⟩ := List.forall_mem_cons.mp htasks
      have hbehind := htask s hs
      rw [settle]
      split
      · rename_i heq
        rw [heq] at hbehind
        have hall := ih hrest hbehind
        split
        · rename_i heq'
          rw [heq'] at hall
          exact hall
        · rename_i heq'
          rw [heq'] at hall
          exact hall
        · rename_i heq'
          rw [heq'] at hall
          exact hall
      · rename_i heq
        rw [heq] at hbehind
        exact hbehind
      · rename_i heq
        rw [heq] at hbehind
        apply settleBehind_keeps eager hrest hbehind

/-- What every call keeps is kept by the run of a program, whether it ends or not. -/
theorem run_keeps {handle : Handler I σ} {inv : σ → Prop}
    (hkeeps : ∀ c s, P c → inv s → inv (handle c s).2) {p : Program I ε α} (hp : p.Makes P) {s : σ}
    (hs : inv s) :
  inv (p.run handle s).2
  := by
  induction p generalizing s with
  | done a => exact hs
  | fail e => exact hs
  | call c next ih =>
      have hbehind := hkeeps c s hp.1 hs
      rw [run]
      split
      · rename_i heq
        rw [heq] at hbehind
        apply ih _ (hp.2 _) hbehind
      · rename_i heq
        rw [heq] at hbehind
        exact hbehind
  | together n tasks next ihTasks ihNext =>
      have htasks : ∀ task ∈ List.ofFn fun i => run handle (tasks i),
          ∀ s, inv s → inv (task s).2 := by
        intro task htask s hs
        obtain ⟨i, rfl⟩ := List.mem_ofFn.mp htask
        apply ihTasks i (hp.1 i) hs
      have hall := settle_keeps (n ≤ eagerGroup) htasks hs
      rw [run]
      split
      · rename_i heq
        rw [heq] at hall
        apply ihNext _ (hp.2 _) hall
      · rename_i heq
        rw [heq] at hall
        exact hall

/-! ### Runs that end -/

theorem settle_ends {inv : σ → Prop} (eager : Bool) {tasks : List (σ → Outcome ε β σ)}
    (htasks : ∀ task ∈ tasks, ∀ s, inv s → ∃ r s', task s = (some r, s') ∧ inv s') {s : σ}
    (hs : inv s) :
  ∃ r s', settle eager tasks s = (some r, s') ∧ inv s'
  := by
  induction tasks generalizing s with
  | nil => exact ⟨.ok [], s, rfl, hs⟩
  | cons task rest ih =>
      obtain ⟨htask, hrest⟩ := List.forall_mem_cons.mp htasks
      obtain ⟨r, s₁, htask, h₁⟩ := htask s hs
      rw [settle, htask]
      cases r with
      | error e => exact ⟨.error e, s₁, rfl, h₁⟩
      | ok x =>
          obtain ⟨r, s₂, hsettle, h₂⟩ := ih hrest h₁
          simp only [hsettle]
          cases r with
          | error e => exact ⟨.error e, s₂, rfl, h₂⟩
          | ok xs => exact ⟨.ok (x :: xs), s₂, rfl, h₂⟩

/-- A program all of whose calls are answered ends, and what every answer keeps is kept. -/
theorem run_ends {handle : Handler I σ} {inv : σ → Prop}
    (hanswers : ∀ c s, P c → inv s → ∃ x s', handle c s = (some x, s') ∧ inv s')
    {p : Program I ε α} (hp : p.Makes P) {s : σ} (hs : inv s) :
  ∃ r s', p.run handle s = (some r, s') ∧ inv s'
  := by
  induction p generalizing s with
  | done a => exact ⟨.ok a, s, rfl, hs⟩
  | fail e => exact ⟨.error e, s, rfl, hs⟩
  | call c next ih =>
      obtain ⟨x, s₁, hanswer, h₁⟩ := hanswers c s hp.1 hs
      rw [run, hanswer]
      apply ih x (hp.2 x) h₁
  | together n tasks next ihTasks ihNext =>
      have htasks : ∀ task ∈ List.ofFn fun i => run handle (tasks i),
          ∀ s, inv s → ∃ r s', task s = (some r, s') ∧ inv s' := by
        intro task htask s hs
        obtain ⟨i, rfl⟩ := List.mem_ofFn.mp htask
        apply ihTasks i (hp.1 i) hs
      obtain ⟨r, s₁, hsettle, h₁⟩ := settle_ends (n ≤ eagerGroup) htasks hs
      rw [run, hsettle]
      apply ihNext r (hp.2 r) h₁

end Program

/-- Answers so many calls, and none behind them. -/
def Handler.upTo {I : Interface} {σ : Type} (handle : Handler I σ) : Handler I (Nat × σ)
  | c, (left + 1, s) => ((handle c s).1, left, (handle c s).2)
  | _, (0, s) => (none, 0, s)

theorem Handler.upTo_keeps {I : Interface} {σ : Type} {P : I.Call → Prop} {handle : Handler I σ}
    {inv : σ → Prop} (hkeeps : ∀ c s, P c → inv s → inv (handle c s).2) (c : I.Call)
    (s : Nat × σ) (hc : P c) (hs : inv s.2) :
  inv (handle.upTo c s).2.2
  := by
  obtain ⟨left, s⟩ := s
  cases left with
  | zero => exact hs
  | succ left => exact hkeeps c s hc hs

end JoinBench
