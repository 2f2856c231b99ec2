import JoinBench.Proofs.Json.Members
import Mathlib.Data.List.Nodup
import Mathlib.Data.List.Pairwise

/-!
# The order of members

Members of different names can be gathered in any order: values under different names are put side
by side, and different fields of a record keep clear of one another.  So what a reader makes of a
document in which no name is repeated does not depend on the order of the members of its objects.
-/

namespace JoinBench.Json

variable {α β σ : Type} {room : Nat} {d d' : Document}

/-- A reader treats all texts of a document alike, and makes the same of it when the members of one
object inside stand in another order. -/
structure IsOrderFree (reader : Reader α) : Prop where
  uniform : IsUniform reader
  steady : ∀ ⦃room d d'⦄, Document.Swaps d d' → d.HasUniqueNames →
    d'.as? (reader room) = d.as? (reader room)

theorem Wants.as?_eq_none {reader : List Char → Reading α} {P : Char → Prop}
    (h : Wants reader P) (hd : ¬ P d.opening) :
  d.as? reader = none
  := (h.settles_none hd).as?_eq

/-- The members of any objects inside can stand in other orders. -/
theorem IsOrderFree.as?_of_permutes {reader : Reader α} (h : IsOrderFree reader)
    (hpermutes : d.Permutes d') (hunique : d.HasUniqueNames) (room : Nat) :
  d'.as? (reader room) = d.as? (reader room)
  := by
  -- Names stay unique from step to step.
  have hsteps : d'.HasUniqueNames ∧ d'.as? (reader room) = d.as? (reader room) := by
    induction hpermutes with
    | refl => exact ⟨hunique, rfl⟩
    | tail _ hswaps ih =>
        obtain ⟨hunique', hread⟩ := ih
        exact ⟨hunique'.swap hswaps, (h.steady hswaps hunique').trans hread⟩
  exact hsteps.2

/-- Only the documents that a reader wants matter. -/
theorem isOrderFree_of_wants {reader : Reader α} {P : Nat → Char → Prop}
    (huniform : IsUniform reader) (hwants : ∀ room, Wants (reader room) (P room))
    (h : ∀ room d d', P room d.opening → Document.Swaps d d' → d.HasUniqueNames →
      d'.as? (reader room) = d.as? (reader room)) :
  IsOrderFree reader
  where
    uniform := huniform
    steady := by
      intro room d d' hswaps hunique
      by_cases hd : P room d.opening
      · exact h room d d' hd hswaps hunique
      · have hd' : ¬ P room d'.opening := by
          rw [hswaps.opening_eq.1]
          exact hd
        rw [(hwants room).as?_eq_none hd, (hwants room).as?_eq_none hd']

theorem Document.as?_map (d : Document) (reader : List Char → Reading α) (f : α → β) :
  d.as? (fun cs => (reader cs).map fun (x, rest) => (f x, rest)) = (d.as? reader).map f
  := by
  rw [as?, as?, toOption_map]
  cases (reader d.tokens.flatten).toOption <;> rfl

theorem IsOrderFree.map {reader : Reader α} (h : IsOrderFree reader) (f : α → β) :
  IsOrderFree fun room cs => (reader room cs).map fun (x, rest) => (f x, rest)
  where
    uniform := h.uniform.map f
    steady := by
      intro room d d' hswaps hunique
      rw [Document.as?_map, Document.as?_map, h.steady hswaps hunique]

/-! ### Values without objects -/

/-- A reader that wants neither lists nor objects meets no members. -/
theorem isOrderFree_of_plain {reader : Reader α} {P : Nat → Char → Prop}
    (huniform : IsUniform reader) (hwants : ∀ room, Wants (reader room) (P room))
    (hlist : ∀ room, ¬ P room '[') (hobject : ∀ room, ¬ P room '\x7b') :
  IsOrderFree reader
  := by
  apply isOrderFree_of_wants huniform hwants
  intro room d d' hd hswaps
  obtain hopening | hopening := hswaps.opening_eq.2
  · rw [hopening] at hd
    exact absurd hd (hlist room)
  · rw [hopening] at hd
    exact absurd hd (hobject room)

theorem isOrderFree_readText :
  IsOrderFree readText
  := isOrderFree_of_plain isUniform_readText wants_readText nofun nofun

theorem isOrderFree_readNat (wanted : String) (bound : Nat) :
  IsOrderFree (readNat wanted bound)
  := by
  have hread : IsOrderFree (readInteger wanted 0 bound) := by
    apply isOrderFree_of_plain isUniform_readInteger wants_readInteger <;> intro room <;> decide
  exact hread.map Int.toNat

/-! ### Values of values -/

theorem IsOrderFree.readOptional {reader : Reader α} (h : IsOrderFree reader) :
  IsOrderFree (readOptional reader)
  where
    uniform := h.uniform.readOptional
    steady := by
      intro room d d' hswaps hunique
      obtain ⟨hopening, hd⟩ := hswaps.opening_eq
      have hnull : d.opening ≠ 'n' := by
        obtain hd | hd := hd <;> rw [hd] <;> decide
      rw [(settles_readOptional hnull (h.uniform room d)).as?_eq,
        (settles_readOptional (hopening ▸ hnull) (h.uniform room d')).as?_eq,
        h.steady hswaps hunique]

theorem IsOrderFree.readList {item : Reader α} (h : IsOrderFree item) :
  IsOrderFree (readList item)
  := by
  apply isOrderFree_of_wants h.uniform.readList (wants_readList item)
  rintro (_ | room) d d' ⟨hd, hroom⟩ hswaps hunique
  · exact absurd rfl hroom
  · cases hswaps with
    | members | value => cases hd
    | item before after hswaps =>
        have hd := @h.steady room _ _ hswaps hunique.of_list
        rw [(settles_readList h.uniform room _).as?_eq, (settles_readList h.uniform room _).as?_eq,
          List.mapM_append, List.mapM_append, List.mapM_cons, List.mapM_cons, hd]

/-! ### Members -/

/-- A fold over things that commute does not depend on their order. -/
theorem foldlM_perm {f : σ → β → Option σ} {l l' : List β} (h : l.Perm l')
    (hcomm : l.Pairwise fun x y => ∀ s, (f s x).bind (f · y) = (f s y).bind (f · x)) (s : σ) :
  l'.foldlM f s = l.foldlM f s
  := by
  have hsymm : ∀ {x y}, (∀ s, (f s x).bind (f · y) = (f s y).bind (f · x)) →
      ∀ s, (f s y).bind (f · x) = (f s x).bind (f · y) := fun h s => (h s).symm
  induction h generalizing s with
  | nil => rfl
  | cons x _ ih =>
      rw [List.foldlM_cons, List.foldlM_cons]
      exact congrArg _ (funext (ih (List.pairwise_cons.mp hcomm).2))
  | swap x y l =>
      have hxy := (List.pairwise_cons.mp hcomm).1 x List.mem_cons_self s
      simp only [List.foldlM_cons, bind, ← Option.bind_assoc]
      rw [hxy]
  | trans h _ ih ih' =>
      rw [ih' ((h.pairwise_iff hsymm).mp hcomm), ih hcomm]

section

variable {f : σ → String → Document → Option σ} {members : List (Spelling × Document)}

/-- It makes no difference which of two members of different names is gathered first. -/
def IsKeyed (f : σ → String → Document → Option σ) : Prop :=
  ∀ ⦃name name'⦄, name ≠ name' → ∀ s d d',
    (f s name d).bind (f · name' d') = (f s name' d').bind (f · name d)

theorem IsKeyed.gather_comm (h : IsKeyed f) {m m' : Spelling × Document}
    (hname : ¬ Document.SameName m.1 m'.1) (s : σ) :
  (gather f s m).bind (gather f · m') = (gather f s m').bind (gather f · m)
  := by
  unfold gather
  cases hm : m.1.value? with
  | none => cases m'.1.value? <;> simp
  | some name =>
      cases hm' : m'.1.value? with
      | none => simp
      | some name' =>
          have hne : name ≠ name' := by
            rintro rfl
            exact hname ⟨name, hm, hm'⟩
          exact h hne s m.2 m'.2

/-- The members of an object are gathered to the same in any order. -/
theorem IsKeyed.exists_gather_swapped (h : IsKeyed f)
    (hsteady : ∀ {d d'}, Document.Swaps d d' → d.HasUniqueNames → ∀ s name,
      f s name d' = f s name d)
    (hswaps : Document.Swaps (.object members) d')
    (hunique : (Document.object members).HasUniqueNames) :
  ∃ members', d' = .object members'
    ∧ ∀ s, members'.foldlM (gather f) s = members.foldlM (gather f) s
  := by
  cases hswaps with
  | members hperm =>
      obtain _ | _ | _ | _ | _ | ⟨hnames, -⟩ := hunique
      exact ⟨_, rfl, foldlM_perm hperm (hnames.imp h.gather_comm)⟩
  | @value d d' before after name hswaps =>
      have hvalue : ∀ s, gather f s (name, d') = gather f s (name, d) := by
        intro s
        simp only [gather, hsteady hswaps hunique.of_object]
      refine ⟨_, rfl, ?_⟩
      intro s
      rw [List.foldlM_append, List.foldlM_append]
      simp only [List.foldlM_cons, hvalue]

end

/-! ### Maps -/

/-- Values under different names are put side by side. -/
theorem put_comm {x y : α} {name name' : String} (h : name ≠ name') (members : List (String × α)) :
  put name x (put name' y members) = put name' y (put name x members)
  := by
  induction members with
  | nil =>
      simp only [put]
      grind
  | cons m members ih =>
      simp only [put]
      grind [put]

theorem isKeyed_store (value : List Char → Reading α) :
  IsKeyed (store value)
  := by
  intro name name' hne members d d'
  simp only [store]
  cases d.as? value <;> cases d'.as? value <;> simp [put_comm hne.symm]

theorem IsOrderFree.readMap {value : Reader α} (h : IsOrderFree value) :
  IsOrderFree (readMap value)
  := by
  apply isOrderFree_of_wants h.uniform.readMap (wants_readMap value)
  rintro (_ | room) d d' ⟨hd, hroom⟩ hswaps hunique
  · exact absurd rfl hroom
  · obtain ⟨members, rfl⟩ := Document.exists_eq_object hd
    have hsteady : ∀ {d d'}, Document.Swaps d d' → d.HasUniqueNames → ∀ s name,
        store (value room) s name d' = store (value room) s name d := by
      intro d d' hswaps hunique s name
      rw [store, store, h.steady hswaps hunique]
    obtain ⟨members', rfl, hgather⟩ :=
      (isKeyed_store (value room)).exists_gather_swapped hsteady hswaps hunique
    rw [(settles_readMap h.uniform room _).as?_eq, (settles_readMap h.uniform room _).as?_eq,
      hgather]

/-! ### Records -/

/-- Two fields keep clear of one another: it makes no difference which of them is set first. -/
def Field.Commutes (field field' : Field σ) : Prop :=
  ∀ room draft d d', (field.take room draft d).bind (field'.take room · d')
    = (field'.take room draft d').bind (field.take room · d)

section

variable {name name' : String} {get : σ → Option α} {set : σ → α → σ} {get' : σ → Option β}
  {set' : σ → β → σ} {reader : Reader α} {reader' : Reader β}

theorem Field.take_of (draft : σ) (d : Document) :
  (Field.of name get set reader).take room draft d
    = if (get draft).isSome then none else (d.as? (reader room)).map (set draft)
  := by
  rw [take]
  exact congrArg _ (Document.as?_map d (reader room) (set draft))

/-- Fields that are kept in different places of the draft keep clear of one another. -/
theorem Field.commutes_of (hget : ∀ draft y, get (set' draft y) = get draft)
    (hget' : ∀ draft x, get' (set draft x) = get' draft)
    (hset : ∀ draft x y, set' (set draft x) y = set (set' draft y) x) :
  (Field.of name get set reader).Commutes (Field.of name' get' set' reader')
  := by
  intro room draft d d'
  simp only [take_of]
  cases h : (get draft).isSome <;> cases h' : (get' draft).isSome <;>
    cases d.as? (reader room) <;> cases d'.as? (reader' room) <;> simp [hget, hget', hset, h, h']

theorem isOrderFree_of (h : IsOrderFree reader) (draft : σ) :
  IsOrderFree ((Field.of name get set reader).read draft)
  := h.map (set draft)

end

/-- The names of the fields of a record. -/
def Record.names (record : Record σ) : List String :=
  record.fields.map (·.name)

/-- What makes a record take its members in any order. -/
structure Record.IsOrderFree (record : Record σ) : Prop where
  closed : record.closed = true
  reads : ∀ field ∈ record.fields, ∀ draft, Json.IsOrderFree (field.read draft)
  /-- No field has a second name. -/
  aliases_eq : ∀ field ∈ record.fields, field.aliases = []
  nodup_names : record.names.Nodup
  apart : record.fields.Pairwise Field.Commutes

namespace Record.IsOrderFree

variable {record : Record σ} {field field' : Field σ}

theorem of_find? (h : record.IsOrderFree) {name : String}
    (hfind : record.fields.find? (·.isNamed name) = some field) :
  field ∈ record.fields ∧ field.name = name
  := by
  have hmem := List.mem_of_find?_eq_some hfind
  have hnamed := List.find?_some hfind
  simp only [Field.isNamed, h.aliases_eq field hmem, List.contains_nil, Bool.or_false,
    decide_eq_true_eq] at hnamed
  exact ⟨hmem, hnamed⟩

theorem eq_of_name (h : record.IsOrderFree) (hfield : field ∈ record.fields)
    (hfield' : field' ∈ record.fields) (hname : field.name = field'.name) :
  field = field'
  := List.inj_on_of_nodup_map h.nodup_names hfield hfield' hname

/-- Members of different names are members of different fields. -/
theorem isKeyed_take (h : record.IsOrderFree) (room : Nat) :
  IsKeyed (record.take room)
  := by
  intro name name' hne draft d d'
  unfold Record.take
  cases hfind : record.fields.find? (·.isNamed name) with
  | none => cases record.fields.find? (·.isNamed name') <;> simp
  | some field =>
      cases hfind' : record.fields.find? (·.isNamed name') with
      | none => simp
      | some field' =>
          obtain ⟨hmem, hname⟩ := h.of_find? hfind
          obtain ⟨hmem', hname'⟩ := h.of_find? hfind'
          have hfields : field ≠ field' := by
            rintro rfl
            exact hne (hname.symm.trans hname')
          have hsymm : Std.Symm (Field.Commutes (σ := σ)) :=
            ⟨fun field field' h room draft d d' => (h room draft d' d).symm⟩
          exact h.apart.forall hmem hmem' hfields room draft d d'

theorem take_steady (h : record.IsOrderFree) (hswaps : Document.Swaps d d')
    (hunique : d.HasUniqueNames) (draft : σ) (name : String) :
  record.take room draft name d' = record.take room draft name d
  := by
  unfold Record.take
  cases hfind : record.fields.find? (·.isNamed name) with
  | none => rfl
  | some field =>
      have hread := @(h.reads field (h.of_find? hfind).1 draft).steady room _ _ hswaps hunique
      simp only [Option.bind_some, Field.take, hread]

theorem takeFields_steady {fields : List (Field σ)}
    (hfields : ∀ field ∈ fields, ∀ draft, Json.IsOrderFree (field.read draft))
    (hswaps : Document.Swaps d d') (hunique : d.HasUniqueNames) (before after : List Document)
    (draft : σ) :
  record.takeFields room draft fields (before ++ d' :: after)
    = record.takeFields room draft fields (before ++ d :: after)
  := by
  induction before generalizing draft fields with
  | nil =>
      cases fields with
      | nil => rfl
      | cons field fields =>
          rw [List.forall_mem_cons] at hfields
          simp only [List.nil_append, Record.takeFields, (hfields.1 draft).steady hswaps hunique]
  | cons first before ih =>
      cases fields with
      | nil => rfl
      | cons field fields =>
          rw [List.forall_mem_cons] at hfields
          simp only [List.cons_append, Record.takeFields, ih hfields.2]

theorem uniform (h : record.IsOrderFree) :
  ∀ field ∈ record.fields, ∀ draft, IsUniform (field.read draft)
  := fun field hfield draft => (h.reads field hfield draft).uniform

theorem readRecord (h : record.IsOrderFree) (empty : σ) :
  Json.IsOrderFree (readRecord record empty)
  := by
  apply isOrderFree_of_wants (Record.isUniform_readRecord h.closed h.uniform empty)
    (Record.wants_readRecord record empty)
  rintro (_ | room) d d' ⟨hd, hroom⟩ hswaps hunique
  · exact absurd rfl hroom
  obtain hd | hd := hd
  · obtain ⟨items, rfl⟩ := Document.exists_eq_list hd
    cases hswaps with
    | item before after hswaps =>
        rw [(Record.settles_readRecord_list h.uniform empty room _).as?_eq,
          (Record.settles_readRecord_list h.uniform empty room _).as?_eq,
          takeFields_steady h.reads hswaps hunique.of_list]
  · obtain ⟨members, rfl⟩ := Document.exists_eq_object hd
    obtain ⟨members', rfl, hgather⟩ :=
      (h.isKeyed_take room).exists_gather_swapped h.take_steady hswaps hunique
    rw [(Record.settles_readRecord_object h.closed h.uniform empty room _).as?_eq,
      (Record.settles_readRecord_object h.closed h.uniform empty room _).as?_eq, Record.takeMembers,
      Record.takeMembers, hgather]

end Record.IsOrderFree

end JoinBench.Json
