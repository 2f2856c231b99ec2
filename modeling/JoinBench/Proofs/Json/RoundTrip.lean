import JoinBench.Proofs.Json.Brackets
import JoinBench.Proofs.Json.Value
import Mathlib.Order.MinMax

/-!
# Reading values that were written

The compact text of a canonical value without doubles is read as that value, provided that the
value nests no deeper than the reader has room for brackets; else the reader gives up.
-/

namespace JoinBench.Json

variable {v : Json} {room : Nat} {rest : List Char}

/-- Not a double. -/
def IsExact (v : Json) : Prop :=
  ∀ x, v ≠ .double x

/-- Canonical and not a double: what is read back exactly. -/
def IsPlain (v : Json) : Prop :=
  v.IsCanonical ∧ v.IsExact

/-! ### Depth -/

mutual

/-- How many brackets are open at once in the text of a value, at most. -/
def depth : Json → Nat
  | .list items => itemsDepth items + 1
  | .object members => membersDepth members + 1
  | _ => 0

/-- The greatest depth of several values. -/
def itemsDepth : List Json → Nat
  | [] => 0
  | item :: rest => max item.depth (itemsDepth rest)

/-- The greatest depth of the values of several members. -/
def membersDepth : List (String × Json) → Nat
  | [] => 0
  | (_, value) :: rest => max value.depth (membersDepth rest)

end

theorem membersDepth_eq (members : List (String × Json)) :
  membersDepth members = itemsDepth (members.map (·.2))
  := by
  induction members with
  | nil => rfl
  | cons m members ih => rw [membersDepth, List.map_cons, itemsDepth, ih]

theorem itemsDepth_le_iff {items : List Json} :
  itemsDepth items ≤ room ↔ ∀ item ∈ items, item.depth ≤ room
  := by
  induction items with
  | nil => simp [itemsDepth]
  | cons item items ih => simp [itemsDepth, ih]

/-- Of several things with one whose value nests too deep, the first of these. -/
theorem exists_first_deep {α : Type} {value : α → Json} {xs : List α}
    (hdeep : room < itemsDepth (xs.map value)) :
  ∃ ahead x behind, xs = ahead ++ x :: behind ∧ (∀ y ∈ ahead, (value y).depth ≤ room)
    ∧ room < (value x).depth
  := by
  induction xs with
  | nil => cases hdeep
  | cons first xs ih =>
      by_cases hfirst : room < (value first).depth
      · exact ⟨[], first, xs, rfl, List.forall_mem_nil _, hfirst⟩
      · rw [List.map_cons, itemsDepth, lt_max_iff] at hdeep
        obtain ⟨ahead, x, behind, rfl, hahead, hx⟩ := ih (hdeep.resolve_left hfirst)
        use first :: ahead, x, behind, rfl
        exact ⟨List.forall_mem_cons.mpr ⟨Nat.le_of_not_lt hfirst, hahead⟩, hx⟩

/-! ### Texts -/

/-- How the text of a value starts. -/
theorem exists_render_eq_cons (hexact : v.IsExact) :
  ∃ c cs, render v = c :: cs ∧ isSpace c = false ∧ c ≠ ']' ∧ (c = 'n' → v = .null)
  := by
  cases v with
  | null => exact ⟨_, _, rfl, by decide, by decide, fun _ => rfl⟩
  | bool value =>
      cases value <;> refine ⟨_, _, rfl, by decide, by decide, ?_⟩ <;> intro hc <;> cases hc
  | int i =>
      rw [render, renderInt]
      split
      · refine ⟨_, _, rfl, by decide, by decide, ?_⟩
        intro hc
        cases hc
      · obtain ⟨c, digits, hdigits, hc⟩ := exists_toDigits i.natAbs
        refine ⟨c, digits, hdigits, isSpace_of_isDigit hc, ?_, ?_⟩ <;> rintro rfl <;> cases hc
  | double x => cases hexact x rfl
  | text s | list items | object members =>
      refine ⟨_, _, rfl, by decide, by decide, ?_⟩
      intro hc
      cases hc

theorem starts_render (hexact : v.IsExact) :
  Starts (render v)
  := by
  obtain ⟨c, cs, hrender, hspace, hclose, -⟩ := exists_render_eq_cons hexact
  exact ⟨c, cs, hrender, hspace, hclose⟩

theorem renderItems_eq (items : List Json) :
  renderItems items = separated true (items.map render)
  := by
  induction items with
  | nil => rfl
  | cons item items ih =>
      cases items with
      | nil => simp [renderItems, separated, comma]
      | cons second items =>
          rw [renderItems, ih]
          · simp [separated, comma]
          · simp

theorem renderMembers_eq (members : List (String × Json)) :
  renderMembers members = separated true ((members.map fun m => (m.1, render m.2)).map memberText)
  := by
  induction members with
  | nil => rfl
  | cons m members ih =>
      cases members with
      | nil => simp [renderMembers, separated, comma, memberText]
      | cons second members =>
          rw [renderMembers, ih]
          · simp [separated, comma, memberText]
          · simp

theorem render_list_append (items : List Json) (rest : List Char) :
  render (.list items) ++ rest = '[' :: (separated true (items.map render) ++ ']' :: rest)
  := by
  simp [render, renderItems_eq]

theorem render_object (members : List (String × Json)) :
  render (.object members) = objectText (members.map fun m => (m.1, render m.2))
  := by
  rw [render, renderMembers_eq, objectText]

/-! ### Single values -/

section

variable (inner : Option (List Char → Reading Json)) {cs : List Char} {c : Char}

theorem readWith_quote :
  readWith inner ('"' :: cs) = (readTextBody cs).map fun (s, rest) => (.text s, rest)
  := rfl

theorem readWith_minus :
  readWith inner ('-' :: cs) = (readDigits true cs).map readWith.ofNumber
  := rfl

theorem readWith_digit (hc : c.isDigit = true) :
  readWith inner (c :: cs) = (readDigits false (c :: cs)).map readWith.ofNumber
  := by
  have hminus : c ≠ '-' := by
    rintro rfl
    cases hc
  rw [readWith, skipSpace_cons (isSpace_of_isDigit hc)]
  split
  · next heq => cases heq
  iterate 6
    next heq =>
      cases heq
      cases hc
  · next heq =>
    cases heq
    rw [if_neg hminus, if_pos hc]

theorem reads_null :
  Reads (readWith inner) (render .null) .null
  := fun _ _ => rfl

theorem reads_bool (value : Bool) :
  Reads (readWith inner) (render (.bool value)) (.bool value)
  := by
  intro rest _
  cases value <;> rfl

theorem reads_int {i : Int} (hi : Fits i) :
  Reads (readWith inner) (render (.int i)) (.int i)
  := by
  intro rest hrest
  rw [render, renderInt]
  split
  · next hneg =>
    rw [List.cons_append, readWith_minus, readDigits_natAbs_of_neg hi hneg hrest]
    rfl
  · next hnonneg =>
    have hread := readDigits_natAbs_of_nonneg hi (Int.not_lt.mp hnonneg) hrest
    obtain ⟨c, digits, hdigits, hc⟩ := exists_toDigits i.natAbs
    rw [hdigits, List.cons_append] at hread ⊢
    rw [readWith_digit inner hc, hread]
    rfl

theorem reads_text (s : String) :
  Reads (readWith inner) (render (.text s)) (.text s)
  := by
  intro rest _
  have htext : render (.text s) ++ rest = '"' :: (s.toList.flatMap escape ++ '"' :: rest) := by
    simp [render, renderText]
  rw [htext, readWith_quote, readTextBody_escape]
  rfl

end

/-! ### Objects -/

section

variable {α : Type} {reader : List Char → Reading α} {write : α → List Char} {problem : Problem}

theorem storeMember_colon (gathered : List (String × α)) (name : String) (cs : List Char) :
  storeMember reader gathered name (':' :: cs)
    = (reader cs).map fun (x, rest) => (put name x gathered, rest)
  := by
  have hcolon : readColon (':' :: cs) = .ok cs := rfl
  rw [storeMember, hcolon]
  cases hx : reader cs <;> simp [hx, bind, Except.bind, pure, Except.pure, Except.map]

theorem reads_storeMember {text : List Char} {x : α} {gathered : List (String × α)} {name : String}
    (hx : Reads reader text x) (hgathered : ∀ m ∈ gathered, m.1 < name) :
  Reads (storeMember reader gathered name) (':' :: text) (gathered ++ [(name, x)])
  := by
  intro rest hrest
  rw [List.cons_append, storeMember_colon, hx hrest, ← put_eq_append hgathered]
  rfl

theorem meets_storeMember {text : List Char} (gathered : List (String × α)) (name : String)
    (htext : Meets reader text problem) :
  Meets (storeMember reader gathered name) (':' :: text) problem
  := by
  intro rest
  obtain ⟨left, hfault⟩ := htext rest
  use left
  rw [List.cons_append, storeMember_colon, hfault]
  rfl

/-- Ascending members are gathered in their order. -/
theorem gathers_storeMember (read : List (String × α)) {members : List (String × α)}
    (hordered : (read ++ members).Pairwise (·.1 < ·.1))
    (hmembers : ∀ m ∈ members, Reads reader (write m.2) m.2) :
  Gathers (storeMember reader) read (members.map fun m => (m.1, write m.2)) (read ++ members)
  := by
  induction members generalizing read with
  | nil =>
      rw [List.append_nil]
      exact .nil read
  | cons m members ih =>
      rw [List.forall_mem_cons] at hmembers
      have hread : ∀ other ∈ read, other.1 < m.1 := fun other hother =>
        (List.pairwise_append.mp hordered).2.2 other hother m List.mem_cons_self
      rw [List.append_cons] at hordered ⊢
      exact .cons (reads_storeMember hmembers.1 hread) (ih _ hordered hmembers.2)

/-- A map is read from the text of its ascending members. -/
theorem readMembers_storeMember_eq_ok {members : List (String × α)} {cs : List Char}
    (hordered : members.Pairwise (·.1 < ·.1))
    (hmembers : ∀ m ∈ members, Reads reader (write m.2) m.2)
    (hcs : cs = separated true ((members.map fun m => (m.1, write m.2)).map memberText)
      ++ '\x7d' :: rest) :
  readMembers (storeMember reader) true [] (cs.length + 1) cs = .ok (members, rest)
  := readMembers_eq_ok (gathers_storeMember [] hordered hmembers) hcs

/-- Reading a map stops at the first value that cannot be read. -/
theorem readMembers_storeMember_eq_error {ahead behind : List (String × α)} {m : String × α}
    {cs : List Char} (hordered : ahead.Pairwise (·.1 < ·.1))
    (hahead : ∀ m ∈ ahead, Reads reader (write m.2) m.2) (hm : Meets reader (write m.2) problem)
    (hcs : cs = separated true
      (((ahead ++ m :: behind).map fun m => (m.1, write m.2)).map memberText) ++ '\x7d' :: rest) :
  ∃ left, readMembers (storeMember reader) true [] (cs.length + 1) cs = .error ⟨problem, left⟩
  := by
  rw [List.map_append, List.map_append, List.map_cons, List.map_cons] at hcs
  exact readMembers_eq_error (gathers_storeMember [] hordered hahead)
    (meets_storeMember _ _ hm) _ rest hcs

end

/-! ### Values -/

theorem readWith_bracket (reader : List Char → Reading Json) (cs : List Char) :
  readWith (some reader) ('[' :: cs)
    = (readItems reader [] (cs.length + 1) cs).map fun (items, rest) => (.list items, rest)
  := rfl

theorem readWith_brace (reader : List Char → Reading Json) (cs : List Char) :
  readWith (some reader) ('\x7b' :: cs)
    = (readMembers (storeMember reader) true [] (cs.length + 1) cs).map
        fun (members, rest) => (.object members, rest)
  := rfl

/-- A plain value is read from its text, if there is room for its brackets. -/
theorem reads_render (hv : v.Every IsPlain) (hroom : v.depth ≤ room) :
  Reads (readValue room) (render v) v
  := by
  induction hv generalizing room with
  | @intro v hself hparts ih =>
      cases v with
      | null => cases room <;> exact reads_null _
      | bool value => cases room <;> exact reads_bool _ value
      | int i => cases room <;> exact reads_int _ hself.1
      | double x => cases hself.2 x rfl
      | text s => cases room <;> exact reads_text _ s
      | list items =>
          obtain ⟨room, rfl⟩ := Nat.exists_eq_add_of_le' (Nat.le_of_add_left_le hroom)
          have hdepth := itemsDepth_le_iff.mp (Nat.le_of_succ_le_succ hroom)
          intro rest _
          rw [render_list_append, readValue, readWith_bracket, readItems_eq_ok _ _ rfl]
          · rfl
          · exact fun item hitem => starts_render (hparts item hitem).self.2
          · exact fun item hitem => ih item hitem (hdepth item hitem)
      | object members =>
          obtain ⟨room, rfl⟩ := Nat.exists_eq_add_of_le' (Nat.le_of_add_left_le hroom)
          rw [depth, membersDepth_eq, Nat.add_le_add_iff_right, itemsDepth_le_iff,
            List.forall_mem_map] at hroom
          intro rest _
          rw [render_object, objectText_append, readValue, readWith_brace,
            readMembers_storeMember_eq_ok hself.1 _ rfl]
          · rfl
          · exact fun m hm => ih m.2 (List.mem_map_of_mem hm) (hroom m hm)

/-- A value that nests deeper than there is room for brackets is not read. -/
theorem meets_render (hv : v.Every IsPlain) (hroom : room < v.depth) :
  Meets (readValue room) (render v) .nestedTooDeep
  := by
  induction hv generalizing room with
  | @intro v hself hparts ih =>
      intro rest
      cases v with
      | list items =>
          rw [render_list_append]
          cases room with
          | zero => exact ⟨_, rfl⟩
          | succ room =>
              rw [depth, Nat.add_lt_add_iff_right, ← List.map_id' items] at hroom
              obtain ⟨ahead, item, behind, rfl, hahead, hitem⟩ := exists_first_deep hroom
              have hstarts : ∀ other ∈ ahead ++ item :: behind, Starts (render other) :=
                fun other hother => starts_render (hparts other hother).self.2
              rw [List.forall_mem_append, List.forall_mem_cons] at hstarts
              have hreads : ∀ other ∈ ahead, Reads (readValue room) (render other) other :=
                fun other hother =>
                  reads_render (hparts other (List.mem_append_left _ hother)) (hahead other hother)
              have hmeets := ih item (List.mem_append_cons_self) hitem
              obtain ⟨left, hread⟩ := readItems_eq_error hstarts.1 hreads hstarts.2.1 hmeets rfl
              use left
              rw [readValue, readWith_bracket, hread]
              rfl
      | object members =>
          rw [render_object, objectText_append]
          cases room with
          | zero => exact ⟨_, rfl⟩
          | succ room =>
              rw [depth, membersDepth_eq, Nat.add_lt_add_iff_right] at hroom
              obtain ⟨ahead, m, behind, rfl, hahead, hm⟩ := exists_first_deep hroom
              have hordered : ahead.Pairwise (·.1 < ·.1) := (List.pairwise_append.mp hself.1).1
              have hreads : ∀ other ∈ ahead, Reads (readValue room) (render other.2) other.2 := by
                intro other hother
                have hpart : other.2 ∈ (Json.object (ahead ++ m :: behind)).parts :=
                  List.mem_map_of_mem (List.mem_append_left _ hother)
                exact reads_render (hparts other.2 hpart) (hahead other hother)
              have hmeets := ih m.2 (List.mem_map_of_mem List.mem_append_cons_self) hm
              obtain ⟨left, hread⟩ := readMembers_storeMember_eq_error hordered hreads hmeets rfl
              use left
              rw [readValue, readWith_brace, hread]
              rfl
      | _ => cases hroom

end JoinBench.Json
