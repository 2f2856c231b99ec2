import JoinBench.Proofs.Program.Outlook
import Mathlib.Tactic.Common

/-!
# Interleavings

The calls of several tasks that are under way together are made one at a time.  A schedule says in
which order: each of its entries is the place of the task that makes its next call.  Every schedule
is a way of interleaving the calls, and one that ends early is an interleaving that is cut off.

To reason about all of them, each task is in a phase, and goes through its phases with every call
that it makes.  If what a phase tells is not touched by the calls of the other tasks, then under
every schedule each task is in a phase that tells the truth.
-/

namespace JoinBench

variable {I : Interface} {ε α β σ V Φ : Type}

/-! ### Single calls -/

namespace Program

/-- Makes the next call of a program, if it is answered.  Tasks that a program starts together are
not taken apart. -/
def advance (handle : Handler I σ) : Program I ε α → σ → Program I ε α × σ
  | call c next, s =>
    match handle c s with
    | (some x, s') => (next x, s')
    | (none, _) => (call c next, s)
  | p, s => (p, s)

end Program

/-! ### Groups of tasks -/

/-- Tasks that are under way together. -/
structure Group (I : Interface) (ε α σ : Type) where
  tasks : List (Program I ε α)
  state : σ

namespace Group

variable (handle : Handler I σ) (g : Group I ε α σ)

/-- The task of a place makes its next call. -/
def step (i : Nat) : Group I ε α σ :=
  match g.tasks[i]? with
  | some p =>
    let (p', s') := p.advance handle g.state
    ⟨g.tasks.set i p', s'⟩
  | none => g

/-- The tasks make their calls in the order of a schedule. -/
def play (schedule : List Nat) : Group I ε α σ :=
  schedule.foldl (step handle) g

theorem play_append (schedule later : List Nat) :
  g.play handle (schedule ++ later) = (g.play handle schedule).play handle later
  := List.foldl_append

theorem play_singleton (i : Nat) :
  g.play handle [i] = g.step handle i
  := rfl

theorem length_tasks_step (i : Nat) :
  (g.step handle i).tasks.length = g.tasks.length
  := by
  rw [step]
  cases g.tasks[i]? with
  | none => rfl
  | some p => exact List.length_set

theorem length_tasks_play (schedule : List Nat) :
  (g.play handle schedule).tasks.length = g.tasks.length
  := by
  induction schedule generalizing g with
  | nil => rfl
  | cons i rest ih => exact (ih (g.step handle i)).trans (length_tasks_step handle g i)

end Group

/-! ### Running tasks to their ends -/

namespace Program

/-- The program starts no tasks together. -/
def IsPlain {α : Type} : Program I ε α → Prop
  | done _ => True
  | fail _ => True
  | call _ next => ∀ x, IsPlain (next x)
  | together _ _ _ => False

theorem IsPlain.bind {p : Program I ε α} {f : α → Program I ε β} (hp : p.IsPlain)
    (hf : ∀ a, (f a).IsPlain) :
  (p >>= f).IsPlain
  := by
  induction p with
  | done a => exact hf a
  | fail e => trivial
  | call c next ih => exact fun x => ih x (hp x) hf
  | together => exact hp.elim

theorem IsPlain.attempt {p : Program I ε α} (hp : p.IsPlain) :
  p.attempt.IsPlain
  := by
  induction p with
  | done a => trivial
  | fail e => trivial
  | call c next ih => exact fun x => ih x (hp x)
  | together => exact hp.elim

theorem isPlain_ofExcept (r : Except ε α) :
  (ofExcept r : Program I ε α).IsPlain
  := by
  cases r <;> trivial

end Program

namespace Group

open Program

variable {handle : Handler I σ}

/-- A task that is run to its end makes its calls, one after the other. -/
theorem exists_play_of_run {p : Program I ε α} (hp : p.IsPlain) {s s' : σ} {r : Except ε α}
    (hrun : p.run handle s = (some r, s')) {tasks : List (Program I ε α)} {i : Nat}
    (hi : tasks[i]? = some p) :
  ∃ schedule, play handle ⟨tasks, s⟩ schedule = ⟨tasks.set i (Program.ofExcept r), s'⟩
  := by
  have hset : ∀ {tasks : List (Program I ε α)} {q : Program I ε α}, tasks[i]? = some q →
      tasks.set i q = tasks := by
    intro tasks q hq
    obtain ⟨hlength, rfl⟩ := List.getElem?_eq_some_iff.mp hq
    exact List.set_getElem_self hlength
  induction p generalizing s with
  | done a =>
      cases hrun
      use []
      rw [Program.ofExcept, hset hi]
      rfl
  | fail e =>
      cases hrun
      use []
      rw [Program.ofExcept, hset hi]
      rfl
  | call c next ih =>
      rw [run] at hrun
      cases hanswer : handle c s with
      | mk x s₁ =>
          rw [hanswer] at hrun
          cases x with
          | none => cases hrun
          | some x =>
              obtain ⟨hlength, -⟩ := List.getElem?_eq_some_iff.mp hi
              have hnext : (tasks.set i (next x))[i]? = some (next x) :=
                List.getElem?_set_self hlength
              obtain ⟨schedule, hplay⟩ := ih x (hp x) hrun hnext hset
              use i :: schedule
              have hstep : step handle ⟨tasks, s⟩ i = ⟨tasks.set i (next x), s₁⟩ := by
                simp only [step, hi, advance, hanswer]
              rw [play, List.foldl_cons, hstep, ← play, hplay, List.set_set]
  | together => exact hp.elim

/-- A group with a task that is suspended does not succeed. -/
theorem settleBehind_ne_ok {eager : Bool} {tasks : List (σ → Outcome ε β σ)} {s : σ}
    {as : List β} :
  (settleBehind eager tasks s).1 ≠ some (.ok as)
  := by
  induction tasks generalizing s with
  | nil => rintro ⟨⟩
  | cons task rest ih =>
      rw [settleBehind]
      split
      · split_ifs
        · rintro ⟨⟩
        · exact ih
      · exact ih

/-- Tasks that are run to their ends one after the other make their calls in some order. -/
theorem exists_play_of_settle {eager : Bool} {tasks : List (Program I ε α)}
    (hp : ∀ p ∈ tasks, p.IsPlain) {s s' : σ} {as : List α}
    (hrun : settle eager (tasks.map (run handle)) s = (some (.ok as), s'))
    (before : List (Program I ε α)) :
  ∃ schedule, play handle ⟨before ++ tasks, s⟩ schedule = ⟨before ++ as.map done, s'⟩
  := by
  -- Of the ways to settle a group only one yields values: each task in turn comes to its end.
  induction tasks generalizing s as before with
  | nil =>
      cases hrun
      exact ⟨[], rfl⟩
  | cons p rest ih =>
      obtain ⟨hfirst, hrest⟩ := List.forall_mem_cons.mp hp
      rw [List.map_cons, settle] at hrun
      split at hrun
      · rename_i a s₁ htask
        split at hrun
        · rename_i bs s₂ hsettle
          cases hrun
          have hi : (before ++ p :: rest)[before.length]? = some p := by simp
          obtain ⟨schedule, hplay⟩ := exists_play_of_run hfirst htask hi
          obtain ⟨later, hlater⟩ := ih hrest hsettle (before ++ [done a])
          use schedule ++ later
          have hset : (before ++ p :: rest).set before.length (Program.ofExcept (.ok a))
              = before ++ [done a] ++ rest := by
            simp [Program.ofExcept]
          rw [play_append, hplay, hset, hlater, List.append_assoc]
          rfl
        · cases hrun
        · cases hrun
      · cases hrun
      · have hresult := congrArg Prod.fst hrun
        exact absurd hresult settleBehind_ne_ok

/-- A group that is run and succeeds is one of its interleavings. -/
theorem exists_play_of_all {tasks : List (Program I ε α)} (hp : ∀ p ∈ tasks, p.IsPlain)
    {s s' : σ} {as : List α} (hrun : (all tasks).run handle s = (some (.ok as), s')) :
  ∃ schedule, play handle ⟨tasks, s⟩ schedule = ⟨as.map done, s'⟩
  := by
  have hmap : (List.ofFn fun i => run handle (tasks.get i)) = tasks.map (run handle) := by
    apply List.ext_getElem
    · simp
    · intro i h₁ h₂
      simp
  rw [all, run, hmap] at hrun
  split at hrun
  · rename_i r s₁ hsettle
    cases r with
    | error e => cases hrun
    | ok bs =>
        cases hrun
        exact exists_play_of_settle hp hsettle []
  · cases hrun

end Group

/-! ### Phases -/

namespace Program

variable {o : Outlook I σ V} {tells : Φ → V → Prop} {touches : V → V → Prop} {φ : Φ}

/-- From the phase `φ` on every call of the program only touches what it may, and leads to a phase
that tells the truth; the result and the last phase satisfy `Q`. -/
def Proceeds (o : Outlook I σ V) (tells : Φ → V → Prop) (touches : V → V → Prop) {α : Type} :
    Program I ε α → Φ → (Except ε α → Φ → Prop) → Prop
  | done a, φ, Q => Q (.ok a) φ
  | fail e, φ, Q => Q (.error e) φ
  | call c next, φ, Q => ∀ s x s', tells φ (o.see s) → o.handle c s = (some x, s') →
    touches (o.see s) (o.see s')
      ∧ ∃ φ', tells φ' (o.see s') ∧ Proceeds o tells touches (next x) φ' Q
  | together _ _ _, _, _ => True

/-- What has to hold of a result for the rest of a program to proceed. -/
def Next (o : Outlook I σ V) (tells : Φ → V → Prop) (touches : V → V → Prop)
    (f : α → Program I ε β) (Q : Except ε β → Φ → Prop) : Except ε α → Φ → Prop
  | .ok a, φ => (f a).Proceeds o tells touches φ Q
  | .error e, φ => Q (.error e) φ

theorem Proceeds.bind {p : Program I ε α} {f : α → Program I ε β} {Q : Except ε β → Φ → Prop}
    (h : p.Proceeds o tells touches φ (Next o tells touches f Q)) :
  (p >>= f).Proceeds o tells touches φ Q
  := by
  induction p generalizing φ with
  | done a => exact h
  | fail e => exact h
  | call c next ih =>
      intro s x s' htells hanswer
      obtain ⟨htouches, φ', htells', hnext⟩ := h s x s' htells hanswer
      exact ⟨htouches, φ', htells', ih x hnext⟩
  | together => trivial

theorem Proceeds.mono {p : Program I ε α} {Q Q' : Except ε α → Φ → Prop}
    (h : p.Proceeds o tells touches φ Q) (hQ : ∀ r φ', Q r φ' → Q' r φ') :
  p.Proceeds o tells touches φ Q'
  := by
  induction p generalizing φ with
  | done a => exact hQ _ _ h
  | fail e => exact hQ _ _ h
  | call c next ih =>
      intro s x s' htells hanswer
      obtain ⟨htouches, φ', htells', hnext⟩ := h s x s' htells hanswer
      exact ⟨htouches, φ', htells', ih x hnext hQ⟩
  | together => trivial

theorem proceeds_pure {a : α} {Q : Except ε α → Φ → Prop} (h : Q (.ok a) φ) :
  (pure a : Program I ε α).Proceeds o tells touches φ Q
  := h

theorem proceeds_ofExcept {r : Except ε α} {Q : Except ε α → Φ → Prop} (h : Q r φ) :
  (ofExcept r : Program I ε α).Proceeds o tells touches φ Q
  := by
  cases r <;> exact h

/-- A program that makes its next call stays within what it may touch, and proceeds from a phase
that tells the truth. -/
theorem Proceeds.advance (hrefl : ∀ v, touches v v) {p : Program I ε α}
    {Q : Except ε α → Φ → Prop} (h : p.Proceeds o tells touches φ Q) {s : σ}
    (htells : tells φ (o.see s)) :
  touches (o.see s) (o.see (p.advance o.handle s).2)
    ∧ ∃ φ', tells φ' (o.see (p.advance o.handle s).2)
      ∧ (p.advance o.handle s).1.Proceeds o tells touches φ' Q
  := by
  cases p with
  | done | fail | together => exact ⟨hrefl _, φ, htells, h⟩
  | call c next =>
      rw [Program.advance]
      cases hanswer : o.handle c s with
      | mk x s' =>
          cases x with
          | some x => exact h s x s' htells hanswer
          | none => exact ⟨hrefl _, φ, htells, h⟩

end Program

namespace Group

variable {o : Outlook I σ V} {tells : Nat → Φ → V → Prop} {touches : Nat → V → V → Prop}
  {g : Group I ε α σ}

/-- Every task proceeds from a phase that tells the truth. -/
def IsUnderWay (o : Outlook I σ V) (tells : Nat → Φ → V → Prop) (touches : Nat → V → V → Prop)
    (g : Group I ε α σ) : Prop :=
  ∀ i p, g.tasks[i]? = some p → ∃ φ, tells i φ (o.see g.state)
    ∧ p.Proceeds o (tells i) (touches i) φ fun _ _ => True

section Playing

variable (hrefl : ∀ i v, touches i v v)
  (hstable : ∀ i j φ v v', i ≠ j → tells i φ v → touches j v v' → tells i φ v')

include hrefl

/-- A step only touches what its task may. -/
theorem IsUnderWay.touches_step (h : g.IsUnderWay o tells touches) (i : Nat) :
  touches i (o.see g.state) (o.see (g.step o.handle i).state)
  := by
  rw [step]
  cases htask : g.tasks[i]? with
  | none => exact hrefl i _
  | some p =>
      obtain ⟨φ, htells, hproceeds⟩ := h i p htask
      exact (hproceeds.advance (hrefl i) htells).1

include hstable

/-- The phases of the other tasks still tell the truth behind a step. -/
theorem IsUnderWay.step (h : g.IsUnderWay o tells touches) (i : Nat) :
  (g.step o.handle i).IsUnderWay o tells touches
  := by
  have htouches := h.touches_step hrefl i
  intro j q hq
  rw [Group.step] at htouches hq ⊢
  cases htask : g.tasks[i]? with
  | none =>
      rw [htask] at hq
      exact h j q hq
  | some p =>
      rw [htask] at htouches hq
      -- The task of the place enters its next phase; the others stay in theirs, which still tell
      -- the truth since the call did not touch what they tell.
      by_cases hij : i = j
      · subst hij
        obtain ⟨φ, htells, hproceeds⟩ := h i p htask
        have hset : some (p.advance o.handle g.state).1 = some q := by
          rw [← hq, List.getElem?_set_self']
          simp [htask]
        obtain rfl := Option.some_inj.mp hset
        exact (hproceeds.advance (hrefl i) htells).2
      · have hother : g.tasks[j]? = some q := by
          rw [← hq, List.getElem?_set_ne hij]
        obtain ⟨φ, htells, hproceeds⟩ := h j q hother
        exact ⟨φ, hstable j i φ _ _ (Ne.symm hij) htells htouches, hproceeds⟩

/-- Under every schedule each task is in a phase that tells the truth. -/
theorem IsUnderWay.play (h : g.IsUnderWay o tells touches) (schedule : List Nat) :
  (g.play o.handle schedule).IsUnderWay o tells touches
  := by
  induction schedule generalizing g with
  | nil => exact h
  | cons i rest ih => exact ih (h.step hrefl hstable i)

end Playing

end Group

end JoinBench
