import JoinBench.Proofs.Json.Uniform

/-!
# What readers make of objects

The members of an object are gathered one by one: each by its name, and by what a reader makes of
its value.  So a map or a closed record makes the same of all texts of an object, and a record also
of all texts of a list.
-/

namespace JoinBench.Json

variable {α σ : Type} {room : Nat} {tokens : List (List Char)} {blanks text cs rest : List Char}
  {d : Document} {s : Spelling}

/-! ### Objects -/

section

variable {member : σ → String → List Char → Reading σ} {gathered : σ} {first : Bool}
  {members : List (Spelling × Document)}

theorem readMembers_append (hblanks : ∀ c ∈ blanks, isSpace c = true) (rounds : Nat) :
  readMembers member first gathered rounds (blanks ++ cs)
    = readMembers member first gathered rounds cs
  := by
  cases rounds with
  | zero => rfl
  | succ rounds => rw [readMembers, readMembers, skipSpace_append hblanks]

theorem readMembers_comma_append (hblanks : ∀ c ∈ blanks, isSpace c = true) (rounds : Nat) :
  readMembers member false gathered rounds (',' :: (blanks ++ cs))
    = readMembers member false gathered rounds (',' :: cs)
  := by
  cases rounds with
  | zero => rfl
  | succ rounds =>
      rw [readMembers, readMembers, skipSpace_cons (by decide), skipSpace_cons (by decide)]
      simp [skipSpace_append hblanks]

/-- A round reads a name behind its comma and gathers the member. -/
theorem readMembers_quote (rounds : Nat) (cs : List Char) :
  readMembers member first gathered (rounds + 1) (comma first ++ '"' :: cs)
    = (readTextBody cs).bind fun (name, rest) => (member gathered name rest).bind
        fun (gathered, rest) => readMembers member false gathered rounds rest
  := by
  cases first with
  | true =>
      rw [comma, if_pos rfl, List.nil_append, readMembers, skipSpace_cons (by decide)]
      rcases hname : readTextBody cs with fault | ⟨name, rest⟩
      · simp [hname, Except.bind]
      · cases hmember : member gathered name rest <;> simp [hname, hmember, Except.bind]
  | false =>
      have hspace := skipSpace_cons (c := '"') (by decide) cs
      rw [comma, if_neg Bool.false_ne_true, List.singleton_append, readMembers,
        skipSpace_cons (by decide)]
      rcases hname : readTextBody cs with fault | ⟨name, rest⟩
      · simp [hspace, hname, Except.bind]
      · cases hmember : member gathered name rest <;> simp [hspace, hname, hmember, Except.bind]

/-- A round gathers a member whose name can be read. -/
theorem exists_readMembers_spaced
    (h : IsSpaced (commaToken first ++ (s.chars :: [':'] :: (d.tokens ++ tokens))) text) :
  ∃ piece behind, IsSpaced ([':'] :: d.tokens) piece ∧ IsSpaced tokens behind
    ∧ behind.length < text.length
    ∧ ∀ rounds rest, (readMembers member first gathered (rounds + 1) (text ++ rest)).toOption
      = s.value?.bind fun name => (member gathered name (piece ++ (behind ++ rest))).toOption.bind
          fun (gathered, rest) => (readMembers member false gathered rounds rest).toOption
  := by
  obtain ⟨ahead, more, rfl, hahead, hmore⟩ := h.exists_append
  obtain _ | @⟨blanks, _, more, _, hblanks, hmore⟩ := hmore
  have happend : IsSpaced (([':'] :: d.tokens) ++ tokens) more := hmore
  obtain ⟨piece, behind, rfl, hpiece, hbehind⟩ := happend.exists_append
  use piece, behind, hpiece, hbehind
  constructor
  · simp only [List.length_append, Spelling.chars, List.length_cons]
    omega
  · intro rounds rest
    have hround : readMembers member first gathered (rounds + 1)
          (ahead ++ (blanks ++ (s.chars ++ (piece ++ behind))) ++ rest)
        = readMembers member first gathered (rounds + 1)
          (comma first ++ '"' :: (s.body ++ '"' :: (piece ++ (behind ++ rest)))) := by
      cases first with
      | true =>
          cases hahead
          rw [List.nil_append, List.append_assoc, readMembers_append hblanks]
          simp [Spelling.chars, comma]
      | false =>
          obtain _ | @⟨blanks', _, _, _, hblanks', ⟨⟩⟩ := hahead
          rw [List.append_nil, List.append_assoc, List.append_assoc, readMembers_append hblanks',
            List.singleton_append, List.append_assoc, readMembers_comma_append hblanks]
          simp [Spelling.chars, comma]
    rw [hround, readMembers_quote, toOption_bind, s.readTextBody_append]
    cases s.value? with
    | none => rfl
    | some name => rw [Option.map_some, Option.bind_some, Option.bind_some, toOption_bind]

/-- Gathers a member whose name can be read. -/
def gather (f : σ → String → Document → Option σ) (gathered : σ) (m : Spelling × Document) :
  Option σ :=
  m.1.value?.bind fun name => f gathered name m.2

theorem stops_memberTokens (h : IsSpaced (memberTokens false members) text) (rest : List Char) :
  Stops (text ++ rest)
  := by
  cases members <;> exact stops_spaced h (stops_cons rfl (by decide) (by decide) (by decide)) rest

/-- The members of an object are gathered one by one. -/
theorem toOption_readMembers (f : σ → String → Document → Option σ)
    (hmembers : ∀ m ∈ members, ∀ gathered name,
      Settles (member gathered name) ([':'] :: m.2.tokens) (f gathered name m.2))
    (h : IsSpaced (memberTokens first members) text) {rounds : Nat} (hrounds : text.length < rounds)
    (rest : List Char) :
  (readMembers member first gathered rounds (text ++ rest)).toOption
    = (members.foldlM (gather f) gathered).map (·, rest)
  := by
  induction members generalizing first gathered text rounds with
  | nil =>
      obtain ⟨rounds, rfl⟩ := Nat.exists_eq_add_one_of_ne_zero (Nat.ne_zero_of_lt hrounds)
      rw [readMembers, skipSpace_token (by decide) h]
      rfl
  | cons m members ih =>
      obtain ⟨rounds, rfl⟩ := Nat.exists_eq_add_one_of_ne_zero (Nat.ne_zero_of_lt hrounds)
      rw [List.forall_mem_cons] at hmembers
      obtain ⟨piece, behind, hpiece, hbehind, hlength, hround⟩ := exists_readMembers_spaced h
      rw [hround, List.foldlM_cons, gather]
      cases m.1.value? with
      | none => rfl
      | some name =>
          rw [Option.bind_some, Option.bind_some,
            hmembers.1 gathered name hpiece (stops_memberTokens hbehind rest)]
          cases f gathered name m.2 with
          | none => rfl
          | some next =>
              exact ih hmembers.2 hbehind
                (Nat.lt_of_lt_of_le hlength (Nat.le_of_lt_succ hrounds))

end

theorem exists_readColon (h : IsSpaced ([':'] :: tokens) text) :
  ∃ behind, IsSpaced tokens behind ∧ ∀ rest, readColon (text ++ rest) = .ok (behind ++ rest)
  := by
  obtain ⟨behind, hbehind, hskip⟩ := exists_skipSpace (by decide) h
  use behind, hbehind
  intro rest
  rw [readColon, hskip]
  rfl

/-! ### Maps -/

section

variable {value : Reader α} {x? : Option α}

theorem settles_storeMember {value : List Char → Reading α} (h : Settles value tokens x?)
    (gathered : List (String × α)) (name : String) :
  Settles (storeMember value gathered name) ([':'] :: tokens) (x?.map (put name · gathered))
  := by
  intro text htext rest hrest
  obtain ⟨behind, hbehind, hcolon⟩ := exists_readColon htext
  have hstore : storeMember value gathered name (text ++ rest)
      = (value (behind ++ rest)).map fun (x, rest) => (put name x gathered, rest) := by
    cases hread : value (behind ++ rest) <;>
      simp [storeMember, hcolon, hread, bind, Except.bind, Except.map, pure, Except.pure]
  rw [hstore]
  exact h.map (put name · gathered) hbehind hrest

theorem wants_readMap (value : Reader α) (room : Nat) :
  Wants (readMap value room) fun c => c = '\x7b' ∧ room ≠ 0
  := by
  intro cs read hread
  rw [readMap.eq_def] at hread
  split at hread
  · cases hread
  · next heq =>
    split at hread
    · cases hread
    · exact ⟨'\x7b', by rw [heq]; rfl, rfl, Nat.succ_ne_zero _⟩
  · cases hread

/-- Puts what a reader makes of a value under a name. -/
def store (value : List Char → Reading α) (gathered : List (String × α)) (name : String)
    (d : Document) : Option (List (String × α)) :=
  (d.as? value).map (put name · gathered)

theorem settles_readMap (hvalue : IsUniform value) (room : Nat)
    (members : List (Spelling × Document)) :
  Settles (readMap value (room + 1)) (Document.object members).tokens
    (members.foldlM (gather (store (value room))) [])
  := by
  intro text htext rest _
  have happend : IsSpaced ([['\x7b']] ++ memberTokens true members) text := htext
  obtain ⟨front, behind, rfl, hfront, hbehind⟩ := happend.exists_append
  have hrounds : behind.length < (behind ++ rest).length + 1 := by
    rw [List.length_append]
    omega
  rw [readMap, List.append_assoc, skipSpace_token (by decide) hfront]
  apply toOption_readMembers _ _ hbehind hrounds
  intro m _ gathered name
  exact settles_storeMember (hvalue room m.2) gathered name

theorem IsUniform.readMap (hvalue : IsUniform value) :
  IsUniform (readMap value)
  := by
  apply isUniform_of_wants (wants_readMap value)
  rintro (_ | room) d ⟨hd, hroom⟩
  · exact absurd rfl hroom
  · obtain ⟨members, rfl⟩ := Document.exists_eq_object hd
    exact ⟨_, settles_readMap hvalue room members⟩

end

/-! ### Records -/

/-- What a field that is not set yet makes of a document. -/
def Field.take (field : Field σ) (room : Nat) (draft : σ) (d : Document) : Option σ :=
  if field.isSet draft then none else d.as? (field.read draft room)

namespace Record

variable {record : Record σ} {field : Field σ} {fields : List (Field σ)} {draft : σ}
  {items : List Document}

/-- What a closed record makes of a member. -/
def take (record : Record σ) (room : Nat) (draft : σ) (name : String) (d : Document) : Option σ :=
  (record.fields.find? (·.isNamed name)).bind fun field => field.take room draft d

/-- What a record makes of the items of a list, which are the values of fields in their order. -/
def takeFields (record : Record σ) (room : Nat) :
  (draft : σ) → List (Field σ) → List Document → Option σ
  | draft, [], [] => some draft
  | _, [], _ :: _ => none
  | draft, _ :: _, [] => if record.required then none else some draft
  | draft, field :: fields, d :: items =>
    (d.as? (field.read draft room)).bind fun next => takeFields record room next fields items

theorem settles_readField (hclosed : record.closed = true)
    (hfields : ∀ field ∈ record.fields, ∀ draft, IsUniform (field.read draft)) (room : Nat)
    (draft : σ) (name : String) (d : Document) :
  Settles (readField record room draft name) ([':'] :: d.tokens) (record.take room draft name d)
  := by
  intro text htext rest hrest
  obtain ⟨behind, hbehind, hcolon⟩ := exists_readColon htext
  rw [readField, take]
  cases hfind : record.fields.find? (·.isNamed name) with
  | none =>
      simp only [hclosed, if_true]
      rfl
  | some field =>
      have hread := hfields field (List.mem_of_find?_eq_some hfind) draft room d hbehind hrest
      simp only [Option.bind_some, Field.take, hcolon]
      cases field.isSet draft with
      | true => rfl
      | false => exact hread

theorem readFields_append (hblanks : ∀ c ∈ blanks, isSpace c = true) (done : Nat) :
  readFields record room done draft fields (blanks ++ cs)
    = readFields record room done draft fields cs
  := by
  cases fields with
  | nil => rw [readFields, readFields, readListEnd, readListEnd, skipSpace_append hblanks]
  | cons field fields => rw [readFields, readFields, skipSpace_append hblanks]

theorem readFields_comma_append (hblanks : ∀ c ∈ blanks, isSpace c = true) (done : Nat) :
  readFields record room (done + 1) draft (field :: fields) (',' :: (blanks ++ cs))
    = readFields record room (done + 1) draft (field :: fields) (',' :: cs)
  := by
  rw [readFields, readFields, skipSpace_cons (by decide), skipSpace_cons (by decide)]
  simp [skipSpace_append hblanks]

/-- The value of a field is read behind its comma. -/
theorem readFields_piece {piece : List Char} (hstart : Starts piece) (done : Nat)
    (tail : List Char) :
  readFields record room done draft (field :: fields) (comma (done = 0) ++ (piece ++ tail))
    = (field.read draft room (piece ++ tail)).bind fun (draft, rest) =>
        readFields record room (done + 1) draft fields rest
  := by
  obtain ⟨c, cs, rfl, hspace, hclose⟩ := hstart
  cases done with
  | zero =>
      rw [comma, if_pos (by decide), List.nil_append, List.cons_append, readFields,
        skipSpace_cons hspace]
      cases hread : field.read draft room (c :: (cs ++ tail)) <;> simp [hread, Except.bind]
  | succ done =>
      rw [comma, if_neg (by simp), List.singleton_append, List.cons_append, readFields,
        skipSpace_cons (by decide)]
      cases hread : field.read draft room (c :: (cs ++ tail)) <;>
        simp [skipSpace_cons hspace, hclose, hread, Except.bind]

theorem exists_readFields_spaced {done : Nat}
    (h : IsSpaced (commaToken (done = 0) ++ (d.tokens ++ tokens)) text) :
  ∃ piece behind, IsSpaced d.tokens piece ∧ IsSpaced tokens behind
    ∧ ∀ rest, readFields record room done draft (field :: fields) (text ++ rest)
      = (field.read draft room (piece ++ (behind ++ rest))).bind fun (draft, rest) =>
          readFields record room (done + 1) draft fields rest
  := by
  obtain ⟨ahead, more, rfl, hahead, hmore⟩ := h.exists_append
  obtain ⟨front, behind, rfl, hfront, hbehind⟩ := hmore.exists_append
  obtain ⟨blanks, cs, rfl, hblanks, hpiece⟩ := Document.exists_opening hfront
  use d.opening :: cs, behind, hpiece, hbehind
  intro rest
  rw [← readFields_piece (starts_opening d cs)]
  cases done with
  | zero =>
      cases hahead
      rw [List.nil_append, List.append_assoc, List.append_assoc, readFields_append hblanks]
      rfl
  | succ done =>
      obtain _ | @⟨blanks', _, _, _, hblanks', ⟨⟩⟩ := hahead
      rw [List.append_nil, List.append_assoc, List.append_assoc, readFields_append hblanks',
        List.singleton_append, List.append_assoc, List.append_assoc,
        readFields_comma_append hblanks]
      rfl

/-- Behind the values of all fields the list has to end. -/
theorem toOption_readListEnd {first : Bool} (h : IsSpaced (itemTokens first items) text)
    (rest : List Char) :
  (readListEnd (text ++ rest)).toOption = if items.isEmpty then some rest else none
  := by
  cases items with
  | nil =>
      rw [readListEnd, skipSpace_token (by decide) h]
      rfl
  | cons d items =>
      cases first with
      | true =>
          obtain ⟨cs, more, htokens⟩ := d.exists_tokens
          obtain ⟨hspace, hclose, hcomma⟩ := d.opening_spec
          rw [itemTokens, htokens] at h
          obtain ⟨behind, -, hskip⟩ := exists_skipSpace hspace h
          rw [readListEnd, hskip]
          split
          · rfl
          · next heq => exact absurd (List.cons.inj heq).1 hclose
          · next heq => exact absurd (List.cons.inj heq).1 hcomma
          · rfl
      | false =>
          obtain ⟨behind, -, hskip⟩ := exists_skipSpace (by decide) h
          rw [readListEnd, hskip]
          simp only
          split <;> rfl

/-- The items of a list are read as the values of the fields in their order. -/
theorem toOption_readFields (hfields : ∀ field ∈ fields, ∀ draft, IsUniform (field.read draft))
    (done : Nat) (h : IsSpaced (itemTokens (done = 0) items) text) (rest : List Char) :
  (readFields record room done draft fields (text ++ rest)).toOption
    = (record.takeFields room draft fields items).map (·, rest)
  := by
  induction fields generalizing done draft items text with
  | nil =>
      rw [readFields, toOption_map, toOption_readListEnd h]
      cases items <;> rfl
  | cons field fields ih =>
      rw [List.forall_mem_cons] at hfields
      cases items with
      | nil =>
          rw [readFields, skipSpace_token (by decide) h]
          cases hrequired : record.required <;> simp [takeFields, hrequired, Except.toOption]
      | cons d items =>
          obtain ⟨piece, behind, hpiece, hbehind, hround⟩ := exists_readFields_spaced h
          rw [hround, toOption_bind,
            hfields.1 draft room d hpiece (stops_itemTokens hbehind rest), takeFields]
          cases d.as? (field.read draft room) with
          | none => rfl
          | some next => exact ih hfields.2 (done + 1) hbehind

theorem wants_readRecord (record : Record σ) (empty : σ) (room : Nat) :
  Wants (readRecord record empty room) fun c => (c = '[' ∨ c = '\x7b') ∧ room ≠ 0
  := by
  intro cs read hread
  rw [readRecord.eq_def] at hread
  split at hread
  · cases hread
  · next heq =>
    split at hread
    · cases hread
    · exact ⟨'[', by rw [heq]; rfl, .inl rfl, Nat.succ_ne_zero _⟩
  · next heq =>
    split at hread
    · cases hread
    · exact ⟨'\x7b', by rw [heq]; rfl, .inr rfl, Nat.succ_ne_zero _⟩
  · cases hread

/-- What a record makes of the members of an object: a draft to which no field is missing. -/
def takeMembers (record : Record σ) (room : Nat) (draft : σ)
    (members : List (Spelling × Document)) : Option σ :=
  (members.foldlM (gather (record.take room)) draft).filter fun draft =>
    (record.missing? draft).isNone

theorem settles_readRecord_list
    (hfields : ∀ field ∈ record.fields, ∀ draft, IsUniform (field.read draft)) (empty : σ)
    (room : Nat) (items : List Document) :
  Settles (readRecord record empty (room + 1)) (Document.list items).tokens
    (record.takeFields room empty record.fields items)
  := by
  intro text htext rest _
  obtain ⟨behind, hbehind, hskip⟩ := exists_skipSpace (by decide) htext
  rw [readRecord, hskip]
  exact toOption_readFields hfields 0 hbehind rest

theorem readRecord_brace {empty : σ} {behind : List Char}
    (hskip : skipSpace cs = '\x7b' :: behind) :
  readRecord record empty (room + 1) cs
    = (readMembers (readField record room) true empty (behind.length + 1) behind).bind
        fun (draft, rest) =>
          match record.missing? draft with
          | some field => .error (.before (.missingField field.name) rest)
          | none => .ok (draft, rest)
  := by
  cases hread : readMembers (readField record room) true empty (behind.length + 1) behind with
  | error fault => simp [readRecord, hskip, hread, Except.bind]
  | ok read =>
      obtain ⟨draft, rest⟩ := read
      cases hmissing : record.missing? draft <;>
        simp [readRecord, hskip, hread, hmissing, Except.bind]

theorem settles_readRecord_object (hclosed : record.closed = true)
    (hfields : ∀ field ∈ record.fields, ∀ draft, IsUniform (field.read draft)) (empty : σ)
    (room : Nat) (members : List (Spelling × Document)) :
  Settles (readRecord record empty (room + 1)) (Document.object members).tokens
    (record.takeMembers room empty members)
  := by
  intro text htext rest _
  obtain ⟨behind, hbehind, hskip⟩ := exists_skipSpace (by decide) htext
  have hrounds : behind.length < (behind ++ rest).length + 1 := by
    rw [List.length_append]
    omega
  have hmembers : ∀ m ∈ members, ∀ draft name, Settles (readField record room draft name)
      ([':'] :: m.2.tokens) (record.take room draft name m.2) := by
    intro m _ draft name
    exact settles_readField hclosed hfields room draft name m.2
  rw [readRecord_brace (hskip rest), toOption_bind, List.nil_append,
    toOption_readMembers _ hmembers hbehind hrounds, takeMembers]
  cases members.foldlM (gather (record.take room)) empty with
  | none => rfl
  | some draft =>
      cases hmissing : record.missing? draft <;> simp [hmissing, Option.filter, Except.toOption]

theorem isUniform_readRecord (hclosed : record.closed = true)
    (hfields : ∀ field ∈ record.fields, ∀ draft, IsUniform (field.read draft)) (empty : σ) :
  IsUniform (readRecord record empty)
  := by
  apply isUniform_of_wants (wants_readRecord record empty)
  rintro (_ | room) d ⟨hd, hroom⟩
  · exact absurd rfl hroom
  · obtain hd | hd := hd
    · obtain ⟨items, rfl⟩ := Document.exists_eq_list hd
      exact ⟨_, settles_readRecord_list hfields empty room items⟩
    · obtain ⟨members, rfl⟩ := Document.exists_eq_object hd
      exact ⟨_, settles_readRecord_object hclosed hfields empty room members⟩

end Record

end JoinBench.Json
