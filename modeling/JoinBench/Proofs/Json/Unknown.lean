import JoinBench.Proofs.Json.Order

/-!
# Unknown members

A closed record is read from no object that has a member of another name than those of its fields,
wherever the member stands and whatever its value is; and no record is read from a document that
holds, in the place of a field, something that the field is not read from.
-/

namespace JoinBench.Json

variable {α β σ : Type} {d : Document} {s : Spelling}

/-- A fold fails if one of its steps always does. -/
theorem foldlM_eq_none {f : σ → β → Option σ} {x : β} (hx : ∀ s, f s x = none)
    (before after : List β) (s : σ) :
  (before ++ x :: after).foldlM f s = none
  := by
  rw [List.foldlM_append]
  cases before.foldlM f s with
  | none => rfl
  | some next =>
      simp only [bind, Option.bind_some, List.foldlM_cons, hx]
      rfl

theorem as?_readMap_eq_none {value : Reader α} (huniform : IsUniform value)
    (hvalue : ∀ room, d.as? (value room) = none) (before after : List (Spelling × Document))
    (s : Spelling) (room : Nat) :
  (Document.object (before ++ (s, d) :: after)).as? (readMap value room) = none
  := by
  cases room with
  | zero => exact (wants_readMap value 0).as?_eq_none fun h => h.2 rfl
  | succ room =>
      rw [(settles_readMap huniform room _).as?_eq]
      apply foldlM_eq_none
      intro gathered
      rw [gather]
      cases s.value? with
      | none => rfl
      | some name =>
          rw [Option.bind_some, store, hvalue]
          rfl

namespace Record

variable {record : Record σ}

/-- A place for the value of a field: behind its name in an object, or at its position in a list. -/
inductive Place (record : Record σ) (name : String) : (Document → Document) → Prop where
  | member (before after : List (Spelling × Document)) {s : Spelling} (hs : s.value? = some name) :
    Place record name fun d => .object (before ++ (s, d) :: after)
  | item {before : List Document} (after : List Document)
    (hbefore : record.names[before.length]? = some name) :
    Place record name fun d => .list (before ++ d :: after)

theorem takeFields_eq_none {field : Field σ} {room : Nat} {before : List Document}
    {fields : List (Field σ)} (hfield : fields[before.length]? = some field)
    (hd : ∀ draft, d.as? (field.read draft room) = none) (after : List Document) (draft : σ) :
  record.takeFields room draft fields (before ++ d :: after) = none
  := by
  induction before generalizing draft fields with
  | nil =>
      cases fields with
      | nil => cases hfield
      | cons first fields =>
          cases hfield
          rw [List.nil_append, takeFields, hd]
          rfl
  | cons item before ih =>
      cases fields with
      | nil => cases hfield
      | cons first fields =>
          rw [List.cons_append, takeFields]
          cases item.as? (first.read draft room) with
          | none => rfl
          | some next => exact ih hfield next

namespace IsOrderFree

/-- No closed record is read from an object with a member of an unknown name. -/
theorem as?_readRecord_of_unknown (h : record.IsOrderFree) (empty : σ) (room : Nat)
    (before after : List (Spelling × Document)) {s : Spelling}
    (hs : ∀ known ∈ record.names, s.value? ≠ some known) (d : Document) :
  (Document.object (before ++ (s, d) :: after)).as? (Json.readRecord record empty room) = none
  := by
  cases room with
  | zero => exact (wants_readRecord record empty 0).as?_eq_none fun h => h.2 rfl
  | succ room =>
      have hgather : ∀ draft, gather (record.take room) draft (s, d) = none := by
        intro draft
        rw [gather]
        cases hname : s.value? with
        | none => rfl
        | some name =>
            rw [Option.bind_some, take]
            cases hfind : record.fields.find? (·.isNamed name) with
            | none => rfl
            | some field =>
                obtain ⟨hmem, rfl⟩ := h.of_find? hfind
                exact absurd hname (hs field.name (List.mem_map_of_mem hmem))
      rw [(settles_readRecord_object h.closed h.uniform empty room _).as?_eq, takeMembers,
        foldlM_eq_none hgather]
      rfl

/-- No record is read where a field is given something that it is not read from. -/
theorem as?_readRecord_of_place (h : record.IsOrderFree) (empty : σ) {field : Field σ}
    (hfield : field ∈ record.fields) {place : Document → Document}
    (hplace : record.Place field.name place)
    (hd : ∀ draft room, d.as? (field.read draft room) = none) (room : Nat) :
  (place d).as? (Json.readRecord record empty room) = none
  := by
  cases room with
  | zero => exact (wants_readRecord record empty 0).as?_eq_none fun h => h.2 rfl
  | succ room =>
      cases hplace with
      | @member before after s hs =>
          have hgather : ∀ draft, gather (record.take room) draft (s, d) = none := by
            intro draft
            rw [gather, hs, Option.bind_some, take]
            cases hfind : record.fields.find? (·.isNamed field.name) with
            | none => rfl
            | some field' =>
                obtain ⟨hmem, hname⟩ := h.of_find? hfind
                obtain rfl := h.eq_of_name hmem hfield hname
                rw [Option.bind_some, Field.take, hd, ite_self]
          rw [(settles_readRecord_object h.closed h.uniform empty room _).as?_eq, takeMembers,
            foldlM_eq_none hgather]
          rfl
      | @item before after hbefore =>
          rw [(settles_readRecord_list h.uniform empty room _).as?_eq]
          apply takeFields_eq_none _ (hd · room)
          obtain ⟨field', hfield', hname⟩ : ∃ field',
              record.fields[before.length]? = some field' ∧ field'.name = field.name := by
            simpa [names] using hbefore
          obtain rfl := h.eq_of_name (List.mem_of_getElem? hfield') hfield hname
          exact hfield'

end IsOrderFree

/-- A reader that makes something of the drafts of a record. -/
def IsReadBy (record : Record σ) (reader : Reader α) : Prop :=
  ∃ (make : σ → α) (empty : σ), reader = fun room cs =>
    (Json.readRecord record empty room cs).map fun (draft, rest) => (make draft, rest)

namespace IsReadBy

variable {reader : Reader α}

theorem isOrderFree (h : record.IsReadBy reader) (hrecord : record.IsOrderFree) :
  Json.IsOrderFree reader
  := by
  obtain ⟨make, empty, rfl⟩ := h
  exact (hrecord.readRecord empty).map make

theorem as?_of_unknown (h : record.IsReadBy reader) (hrecord : record.IsOrderFree)
    (before after : List (Spelling × Document)) (hs : ∀ known ∈ record.names, s.value? ≠ some known)
    (d : Document) (room : Nat) :
  (Document.object (before ++ (s, d) :: after)).as? (reader room) = none
  := by
  obtain ⟨make, empty, rfl⟩ := h
  rw [Document.as?_map, hrecord.as?_readRecord_of_unknown empty room before after hs]
  rfl

theorem as?_of_place (h : record.IsReadBy reader) (hrecord : record.IsOrderFree) {name : String}
    {get : σ → Option β} {set : σ → β → σ} {value : Reader β}
    (hfield : Field.of name get set value ∈ record.fields) {place : Document → Document}
    (hplace : record.Place name place) (hd : ∀ room, d.as? (value room) = none) (room : Nat) :
  (place d).as? (reader room) = none
  := by
  obtain ⟨make, empty, rfl⟩ := h
  have hread : ∀ draft room, d.as? ((Field.of name get set value).read draft room) = none := by
    intro draft room
    have hmap := d.as?_map (value room) (set draft)
    rw [hd] at hmap
    exact hmap
  rw [Document.as?_map, hrecord.as?_readRecord_of_place empty hfield hplace hread]
  rfl

end IsReadBy

end Record

theorem as?_readOptional_eq_none {reader : Reader α} (huniform : IsUniform reader) {room : Nat}
    (hd : d.as? (reader room) = none) (hnull : d.opening ≠ 'n') :
  d.as? (readOptional reader room) = none
  := by
  rw [(settles_readOptional hnull (huniform room d)).as?_eq, hd]
  rfl

end JoinBench.Json
