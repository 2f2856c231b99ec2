import JoinBench.Proofs.Program.Ends

/-!
# Programs seen from outside

Of the states of a run often only a part matters, and only some states do.  An outlook says which:
what is seen of a state, and which states are fine.  `Leads o v p Q` says that the program `p`, run
from any fine state that looks like `v`, ends in a fine state, and that its result and what is seen
of that state satisfy `Q`.
-/

namespace JoinBench

/-- What is seen of the states of a run, and which of them are fine. -/
structure Outlook (I : Interface) (σ V : Type) where
  handle : Handler I σ
  see : σ → V
  fine : σ → Prop

namespace Program

variable {I : Interface} {ε α β σ V : Type} {o : Outlook I σ V} {v : V}

/-- From any fine state that looks like `v` the program ends in a fine state, and its result and
what is seen of that state satisfy `Q`. -/
def Leads (o : Outlook I σ V) (v : V) (p : Program I ε α) (Q : Except ε α → V → Prop) : Prop :=
  ∀ s, o.see s = v → o.fine s → Ends o.handle p s fun r s' => o.fine s' ∧ Q r (o.see s')

/-- What has to hold of a result for the rest of a program to lead to `Q`. -/
def Onward (o : Outlook I σ V) (f : α → Program I ε β) (Q : Except ε β → V → Prop) :
    Except ε α → V → Prop
  | .ok a, v => Leads o v (f a) Q
  | .error e, v => Q (.error e) v

/-! ### One rule for each way of making a program -/

@[simp]
theorem onward_ok (f : α → Program I ε β) (Q : Except ε β → V → Prop) (a : α) :
  Onward o f Q (.ok a) v ↔ Leads o v (f a) Q
  := Iff.rfl

theorem Leads.mono {p : Program I ε α} {Q Q' : Except ε α → V → Prop} (h : Leads o v p Q)
    (hQ : ∀ r v', Q r v' → Q' r v') :
  Leads o v p Q'
  := by
  intro s hs hfine
  apply (h s hs hfine).mono
  rintro r s' ⟨hfine', hq⟩
  exact ⟨hfine', hQ _ _ hq⟩

theorem leads_pure {a : α} {Q : Except ε α → V → Prop} (h : Q (.ok a) v) :
  Leads o v (pure a) Q
  := by
  rintro s rfl hfine
  rw [ends_pure]
  exact ⟨hfine, h⟩

theorem leads_throw {e : ε} {Q : Except ε α → V → Prop} (h : Q (.error e) v) :
  Leads o v (throw e) Q
  := by
  rintro s rfl hfine
  rw [ends_throw]
  exact ⟨hfine, h⟩

theorem leads_ofExcept {r : Except ε α} {Q : Except ε α → V → Prop} (h : Q r v) :
  Leads o v (.ofExcept r) Q
  := by
  rintro s rfl hfine
  rw [ends_ofExcept]
  exact ⟨hfine, h⟩

theorem leads_bind {p : Program I ε α} {f : α → Program I ε β} {Q : Except ε β → V → Prop}
    (h : Leads o v p (Onward o f Q)) :
  Leads o v (p >>= f) Q
  := by
  intro s hs hfine
  rw [ends_bind']
  apply (h s hs hfine).mono
  rintro (e | a) s' ⟨hfine', hq⟩
  · exact ⟨hfine', hq⟩
  · exact hq s' rfl hfine'

theorem leads_attempt {p : Program I ε α} {Q : Except ε (Except ε α) → V → Prop}
    (h : Leads o v p fun r => Q (.ok r)) :
  Leads o v p.attempt Q
  := by
  intro s hs hfine
  rw [ends_attempt]
  exact h s hs hfine

theorem leads_all {tasks : List (Program I ε α)} {Q : Except ε (List α) → V → Prop}
    (h : Leads o v (sequence tasks) Q) :
  Leads o v (all tasks) Q
  := by
  intro s hs hfine
  apply ends_all
  exact h s hs hfine

/-- A check that passes. -/
theorem leads_check {c : Prop} [Decidable c] (hc : ¬ c) {e : ε} {next : PUnit → Program I ε α}
    {Q : Except ε α → V → Prop} (h : Leads o v (next ⟨⟩) Q) :
  Leads o v (if c then throw e >>= next else next ⟨⟩) Q
  := by
  rw [if_neg hc]
  exact h

/-- A check that fails. -/
theorem leads_check_error {c : Prop} [Decidable c] (hc : c) {e : ε}
    {next : PUnit → Program I ε α} {Q : Except ε α → V → Prop} (h : Q (.error e) v) :
  Leads o v (if c then throw e >>= next else next ⟨⟩) Q
  := by
  rw [if_pos hc]
  apply leads_bind
  apply leads_throw
  exact h

/-- Programs that leave what is seen as it is do so one after the other. -/
theorem leads_forEach {f : β → Program I ε Unit} {items : List β}
    (hf : ∀ x {Q : Except ε Unit → V → Prop}, Q (.ok ()) v → Leads o v (f x) Q)
    {Q : Except ε Unit → V → Prop} (h : Q (.ok ()) v) :
  Leads o v (forEach f items) Q
  := by
  induction items with
  | nil => exact leads_pure h
  | cons x rest ih =>
      apply leads_bind
      apply hf x
      exact ih

/-- What holds from one state to the next of the parts of a program holds of the whole. -/
theorem leads_forEach_of_forall (Rel : V → V → Prop) (hrefl : ∀ v v', Rel v v' → Rel v' v')
    (htrans : ∀ u v w, Rel u v → Rel v w → Rel u w) {f : β → Program I ε Unit} {items : List β}
    (hitems : ∀ x ∈ items, ∀ u, Rel u u → Leads o u (f x) fun _ u' => Rel u u') (hv : Rel v v) :
  Leads o v (forEach f items) fun _ v' => Rel v v'
  := by
  induction items generalizing v with
  | nil => exact leads_pure hv
  | cons x rest ih =>
      obtain ⟨hx, hrest⟩ := List.forall_mem_cons.mp hitems
      apply leads_bind
      apply (hx v hv).mono
      rintro (e | done) u hvu
      · exact hvu
      · apply (ih hrest (hrefl v u hvu)).mono
        intro r w huw
        exact htrans v u w hvu huw

/-- What holds from one state to the next of tasks, each of which yields values that stay good,
holds of the whole group, however far it gets. -/
theorem leads_all_of_forall (Rel : V → V → Prop) (Good : α → V → Prop)
    (hrefl : ∀ v v', Rel v v' → Rel v' v') (htrans : ∀ u v w, Rel u v → Rel v w → Rel u w)
    (hgood : ∀ a u v, Good a u → Rel u v → Good a v) {tasks : List (Program I ε α)}
    (htasks : ∀ p ∈ tasks, ∀ u, Rel u u →
      Leads o u p fun r u' => Rel u u' ∧ ∀ a, r = .ok a → Good a u') (hv : Rel v v) :
  Leads o v (all tasks) fun r v' => Rel v v' ∧ ∀ as, r = .ok as → ∀ a ∈ as, Good a v'
  := by
  apply leads_all
  induction tasks generalizing v with
  | nil =>
      apply leads_pure
      constructor
      · exact hv
      · rintro as ⟨⟩ a ha
        cases ha
  | cons p rest ih =>
      obtain ⟨hp, hrest⟩ := List.forall_mem_cons.mp htasks
      apply leads_bind
      apply (hp v hv).mono
      rintro (e | a) u ⟨hvu, hgoodu⟩
      · constructor
        · exact hvu
        · rintro as ⟨⟩
      · rw [onward_ok]
        apply leads_bind
        apply (ih hrest (hrefl v u hvu)).mono
        rintro (e | as) w ⟨huw, hgoodw⟩
        · constructor
          · exact htrans v u w hvu huw
          · rintro as ⟨⟩
        · rw [onward_ok]
          apply leads_pure
          constructor
          · exact htrans v u w hvu huw
          · rintro _ ⟨⟩
            rw [List.forall_mem_cons]
            exact ⟨hgood a u w (hgoodu a rfl) huw, hgoodw as rfl⟩

end Program

end JoinBench
