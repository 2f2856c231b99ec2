import JoinBench.Proofs.Json.Number
import Mathlib.Tactic.Common

/-!
# What values are read

Properties that hold of a value and of every value inside it.  A value that is read is canonical
throughout: its integers lie in the range of 64 bits, and the members of its objects ascend.
-/

namespace JoinBench.Json

/-- The values right inside a value. -/
def parts : Json → List Json
  | .list items => items
  | .object members => members.map (·.2)
  | _ => []

/-- A property holds of a value and of all values inside it. -/
inductive Every (P : Json → Prop) : Json → Prop where
  | intro {v : Json} (hself : P v) (hparts : ∀ part ∈ v.parts, Every P part) : Every P v

variable {P Q : Json → Prop} {v x : Json}

namespace Every

theorem self (h : v.Every P) :
  P v
  := by
  obtain ⟨hself, -⟩ := h
  exact hself

theorem leaf (hparts : v.parts = []) (hself : P v) :
  v.Every P
  := by
  constructor
  · exact hself
  · rw [hparts]
    exact List.forall_mem_nil _

theorem imp (h : v.Every P) (himp : ∀ {w}, P w → Q w) :
  v.Every Q
  := by
  induction h with
  | intro hself _ ih => exact .intro (himp hself) ih

theorem and (hP : v.Every P) (hQ : v.Every Q) :
  v.Every fun w => P w ∧ Q w
  := by
  induction hP with
  | intro hself _ ih =>
      obtain ⟨hself', hparts'⟩ := hQ
      constructor
      · exact ⟨hself, hself'⟩
      · intro part hpart
        exact ih part hpart (hparts' part hpart)

end Every

mutual

/-- Every value is made up of values, down to those that have no parts. -/
theorem every_true : ∀ v : Json, v.Every fun _ => True
  | .null | .bool _ | .int _ | .double _ | .text _ => .leaf rfl trivial
  | .list items => .intro trivial (every_true_of_mem items)
  | .object members => .intro trivial (List.forall_mem_map.mpr (every_true_of_mem_members members))

theorem every_true_of_mem : ∀ items : List Json, ∀ item ∈ items, item.Every fun _ => True
  | [] => List.forall_mem_nil _
  | item :: items => List.forall_mem_cons.mpr ⟨every_true item, every_true_of_mem items⟩

theorem every_true_of_mem_members :
  ∀ members : List (String × Json), ∀ m ∈ members, m.2.Every fun _ => True
  | [] => List.forall_mem_nil _
  | (_, value) :: members =>
    List.forall_mem_cons.mpr ⟨every_true value, every_true_of_mem_members members⟩

end

/-- The integer of a value lies in the range of those that are read, and the members of an
object ascend. -/
def IsCanonical : Json → Prop
  | .int i => Fits i
  | .object members => members.Pairwise (·.1 < ·.1)
  | _ => True

/-! ### Members -/

section

variable {α : Type} {name : String} {value : α} {m : String × α} {members : List (String × α)}

theorem mem_put (hm : m ∈ put name value members) :
  m = (name, value) ∨ m ∈ members
  := by
  induction members with
  | nil => exact .inl (List.mem_singleton.mp hm)
  | cons first members ih =>
      rw [put] at hm
      split at hm
      · exact List.mem_cons.mp hm
      · split at hm
        · rcases List.mem_cons.mp hm with hm | hm
          · exact .inl hm
          · exact .inr (List.mem_cons_of_mem first hm)
        · rcases List.mem_cons.mp hm with rfl | hm
          · exact .inr List.mem_cons_self
          · exact (ih hm).imp_right (List.mem_cons_of_mem first)

theorem pairwise_put (hmembers : members.Pairwise (·.1 < ·.1)) :
  (put name value members).Pairwise (·.1 < ·.1)
  := by
  induction members with
  | nil => exact List.pairwise_singleton _ _
  | cons first members ih =>
      obtain ⟨hfirst, hrest⟩ := List.pairwise_cons.mp hmembers
      rw [put]
      split
      · next hless =>
        apply List.Pairwise.cons _ hmembers
        intro m hm
        rcases List.mem_cons.mp hm with rfl | hm
        · exact hless
        · exact String.lt_trans hless (hfirst m hm)
      · next hnot =>
        split
        · next heq =>
          apply List.Pairwise.cons _ hrest
          intro m hm
          rw [heq]
          exact hfirst m hm
        · next hne =>
          have hgreater : first.1 < name := by
            by_contra hle
            exact hne (String.le_antisymm (String.not_lt.mp hle) (String.not_lt.mp hnot))
          apply List.Pairwise.cons _ (ih hrest)
          intro m hm
          rcases mem_put hm with rfl | hm
          · exact hgreater
          · exact hfirst m hm

/-- A name greater than all others is put last. -/
theorem put_eq_append (hmembers : ∀ m ∈ members, m.1 < name) :
  put name value members = members ++ [(name, value)]
  := by
  induction members with
  | nil => rfl
  | cons first members ih =>
      rw [List.forall_mem_cons] at hmembers
      have hne : name ≠ first.1 := by
        rintro rfl
        exact String.lt_irrefl _ hmembers.1
      rw [put, if_neg (String.lt_asymm hmembers.1), if_neg hne, ih hmembers.2, List.cons_append]

end

/-! ### Reading -/

section

variable {α σ : Type} {item : List Char → Reading α} {member : σ → String → List Char → Reading σ}
  {rounds : Nat} {cs rest : List Char}

/-- A round of reading items either ends or reads one more item. -/
theorem readItems_succ_eq_ok {read items : List α}
    (hitems : readItems item read (rounds + 1) cs = .ok (items, rest)) :
  items = read.reverse ∨ ∃ start x behind, item start = .ok (x, behind)
    ∧ readItems item (x :: read) rounds behind = .ok (items, rest)
  := by
  rw [readItems] at hitems
  split at hitems
  · cases hitems
  · cases hitems
    exact .inl rfl
  · split at hitems
    · next hempty =>
      split at hitems
      · next hx =>
        rw [List.isEmpty_iff.mp hempty]
        exact .inr ⟨_, _, _, hx, hitems⟩
      · cases hitems
    · split at hitems
      · split at hitems
        · cases hitems
        · cases hitems
        · split at hitems
          · next hx => exact .inr ⟨_, _, _, hx, hitems⟩
          · cases hitems
      · cases hitems

theorem readItems_forall {R : α → Prop}
    (hitem : ∀ {start x behind}, item start = .ok (x, behind) → R x) {read items : List α}
    (hread : ∀ x ∈ read, R x) (hitems : readItems item read rounds cs = .ok (items, rest)) :
  ∀ x ∈ items, R x
  := by
  induction rounds generalizing read cs with
  | zero => cases hitems
  | succ rounds ih =>
      obtain rfl | ⟨start, x, behind, hx, hitems⟩ := readItems_succ_eq_ok hitems
      · intro x hx
        exact hread x (List.mem_reverse.mp hx)
      · exact ih (List.forall_mem_cons.mpr ⟨hitem hx, hread⟩) hitems

/-- A round of reading members either ends or gathers one more member. -/
theorem readMembers_succ_eq_ok {first : Bool} {gathered gathered' : σ}
    (hmembers : readMembers member first gathered (rounds + 1) cs = .ok (gathered', rest)) :
  gathered' = gathered ∨ ∃ name start next behind, member gathered name start = .ok (next, behind)
    ∧ readMembers member false next rounds behind = .ok (gathered', rest)
  := by
  rw [readMembers] at hmembers
  split at hmembers
  · cases hmembers
  · cases hmembers
    exact .inl rfl
  · split at hmembers
    · split at hmembers
      · split at hmembers
        · split at hmembers
          · next hmember => exact .inr ⟨_, _, _, _, hmember, hmembers⟩
          · cases hmembers
        · cases hmembers
      · cases hmembers
    · split at hmembers
      · split at hmembers
        · cases hmembers
        · split at hmembers
          · split at hmembers
            · next hmember => exact .inr ⟨_, _, _, _, hmember, hmembers⟩
            · cases hmembers
          · cases hmembers
        · cases hmembers
        · cases hmembers
      · cases hmembers

theorem readMembers_invariant {R : σ → Prop}
    (hmember : ∀ {gathered name start next behind}, R gathered →
      member gathered name start = .ok (next, behind) → R next)
    {first : Bool} {gathered gathered' : σ} (hgathered : R gathered)
    (hmembers : readMembers member first gathered rounds cs = .ok (gathered', rest)) :
  R gathered'
  := by
  induction rounds generalizing first gathered cs with
  | zero => cases hmembers
  | succ rounds ih =>
      obtain rfl | ⟨name, start, next, behind, hnext, hmembers⟩ := readMembers_succ_eq_ok hmembers
      · exact hgathered
      · exact ih (hmember hgathered hnext) hmembers

/-- What stands under a name after a member was stored. -/
theorem storeMember_eq_ok {reader : List Char → Reading α} {gathered gathered' : List (String × α)}
    {name : String} (hstore : storeMember reader gathered name cs = .ok (gathered', rest)) :
  ∃ behind x, reader behind = .ok (x, rest) ∧ gathered' = put name x gathered
  := by
  rw [storeMember] at hstore
  cases hcolon : readColon cs with
  | error fault => simp [hcolon, bind, Except.bind] at hstore
  | ok behind =>
      cases hx : reader behind with
      | error fault => simp [hcolon, hx, bind, Except.bind] at hstore
      | ok read =>
          simp only [hcolon, hx, bind, Except.bind, pure, Except.pure, Except.ok.injEq,
            Prod.mk.injEq] at hstore
          exact ⟨behind, read.1, by rw [hx, ← hstore.2], hstore.1.symm⟩

theorem exists_of_map_eq_ok {ε β : Type} {f : α → β} {outcome : Except ε α} {y : β}
    (hmap : outcome.map f = .ok y) :
  ∃ x, outcome = .ok x ∧ f x = y
  := by
  cases outcome with
  | error e => cases hmap
  | ok x =>
      cases hmap
      exact ⟨x, rfl, rfl⟩

theorem every_isCanonical_of_number {negative : Bool} {v : Json}
    (hread : (readDigits negative cs).map readWith.ofNumber = .ok (v, rest)) :
  v.Every IsCanonical
  := by
  obtain ⟨⟨i | x, behind⟩, hdigits, hv⟩ := exists_of_map_eq_ok hread
  · cases hv
    exact .leaf rfl (fits_of_readDigits hdigits)
  · cases hv
    exact .leaf rfl trivial

/-- A value that is read is canonical throughout if the values inside its brackets are. -/
theorem every_isCanonical_of_readWith {inner : Option (List Char → Reading Json)} {v : Json}
    (hinner : ∀ reader ∈ inner, ∀ {start x behind}, reader start = .ok (x, behind) →
      x.Every IsCanonical)
    (hread : readWith inner cs = .ok (v, rest)) :
  v.Every IsCanonical
  := by
  rw [readWith] at hread
  split at hread
  · cases hread
  iterate 3
    obtain ⟨behind, -, hv⟩ := exists_of_map_eq_ok hread
    cases hv
    exact .leaf rfl trivial
  · obtain ⟨⟨s, behind⟩, -, hv⟩ := exists_of_map_eq_ok hread
    cases hv
    exact .leaf rfl trivial
  · split at hread
    · cases hread
    · next reader =>
      obtain ⟨⟨items, behind⟩, hitems, hv⟩ := exists_of_map_eq_ok hread
      cases hv
      apply Every.intro trivial
      exact readItems_forall (hinner reader rfl) (List.forall_mem_nil _) hitems
  · split at hread
    · cases hread
    · next reader =>
      obtain ⟨⟨members, behind⟩, hmembers, hv⟩ := exists_of_map_eq_ok hread
      cases hv
      have hinvariant : members.Pairwise (·.1 < ·.1) ∧ ∀ m ∈ members, m.2.Every IsCanonical := by
        apply readMembers_invariant _ _ hmembers
        · intro gathered name start next behind hgathered hnext
          obtain ⟨between, x, hx, rfl⟩ := storeMember_eq_ok hnext
          use pairwise_put hgathered.1
          intro m hm
          rcases mem_put hm with rfl | hm
          · exact hinner reader rfl hx
          · exact hgathered.2 m hm
        · exact ⟨List.Pairwise.nil, List.forall_mem_nil _⟩
      apply Every.intro hinvariant.1
      rw [parts, List.forall_mem_map]
      exact hinvariant.2
  · split at hread
    · exact every_isCanonical_of_number hread
    · split at hread
      · exact every_isCanonical_of_number hread
      · cases hread

theorem every_isCanonical_of_readValue {room : Nat} {v : Json}
    (hread : readValue room cs = .ok (v, rest)) :
  v.Every IsCanonical
  := by
  induction room generalizing cs v rest with
  | zero =>
      rw [readValue] at hread
      apply every_isCanonical_of_readWith _ hread
      intro reader hreader
      cases hreader
  | succ room ih =>
      rw [readValue] at hread
      apply every_isCanonical_of_readWith _ hread
      intro reader hreader
      cases hreader
      exact ih

/-- The value of a text is canonical throughout. -/
theorem every_isCanonical_of_parse {text : String} {v : Json} (hparse : parse text = .ok v) :
  v.Every IsCanonical
  := by
  rw [parse, ofText] at hparse
  cases hread : readValue maxNesting text.toList with
  | error fault =>
      rw [hread] at hparse
      cases hparse
  | ok read =>
      simp only [hread, bind, Except.bind] at hparse
      split at hparse
      · cases hparse
        exact every_isCanonical_of_readValue hread
      · cases hparse

end

end JoinBench.Json
