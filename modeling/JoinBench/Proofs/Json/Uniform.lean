import JoinBench.Proofs.Json.Decode
import JoinBench.Proofs.Json.Spelling

/-!
# What readers make of documents

A reader of values treats all texts of a document alike, whatever follows: it reads one value from
each of them, or it fails on each of them.  What it makes of a list comes from what the reader of
the items makes of the items.
-/

namespace JoinBench.Json

variable {α β : Type} {room : Nat} {c : Char} {tokens : List (List Char)}
  {blanks text cs rest : List Char} {d : Document}

/-- From each text of some tokens, whatever follows, a reader reads the same value; or it fails on
each. -/
def Settles (reader : List Char → Reading α) (tokens : List (List Char)) (x? : Option α) : Prop :=
  ∀ ⦃text⦄, IsSpaced tokens text → ∀ ⦃rest⦄, Stops rest →
    (reader (text ++ rest)).toOption = x?.map (·, rest)

/-- What a reader makes of a document. -/
def Document.as? (d : Document) (reader : List Char → Reading α) : Option α :=
  (reader d.tokens.flatten).toOption.map (·.1)

/-- A reader treats all texts of a document alike, whatever follows. -/
def IsUniform (reader : Reader α) : Prop :=
  ∀ room (d : Document), Settles (reader room) d.tokens (d.as? (reader room))

section

variable {reader : List Char → Reading α} {x? : Option α}

theorem Settles.as?_eq (h : Settles reader d.tokens x?) :
  d.as? reader = x?
  := by
  have hread := @h _ (.flatten d.tokens) [] nofun
  rw [List.append_nil] at hread
  rw [Document.as?, hread, Option.map_map]
  exact Option.map_id'

end

theorem isUniform_of {reader : Reader α}
    (h : ∀ room (d : Document), ∃ x?, Settles (reader room) d.tokens x?) :
  IsUniform reader
  := by
  intro room d
  obtain ⟨x?, hx?⟩ := h room d
  rw [hx?.as?_eq]
  exact hx?

theorem Settles.map {reader : List Char → Reading α} {x? : Option α}
    (h : Settles reader tokens x?) (f : α → β) :
  Settles (fun cs => (reader cs).map fun (x, rest) => (f x, rest)) tokens (x?.map f)
  := by
  intro text htext rest hrest
  rw [toOption_map, h htext hrest]
  cases x? <;> rfl

theorem IsUniform.map {reader : Reader α} (h : IsUniform reader) (f : α → β) :
  IsUniform fun room cs => (reader room cs).map fun (x, rest) => (f x, rest)
  := isUniform_of fun room d => ⟨_, (h room d).map f⟩

/-! ### Openings -/

theorem exists_skipSpace {c : Char} (hc : isSpace c = false)
    (h : IsSpaced ((c :: cs) :: tokens) text) :
  ∃ behind, IsSpaced tokens behind
    ∧ ∀ rest, skipSpace (text ++ rest) = c :: (cs ++ (behind ++ rest))
  := by
  obtain _ | @⟨blanks, _, behind, _, hblanks, hbehind⟩ := h
  use behind, hbehind
  intro rest
  rw [List.append_assoc, List.append_assoc, skipSpace_append hblanks, List.cons_append,
    skipSpace_cons hc]

theorem skipSpace_token {c : Char} (hc : isSpace c = false) (h : IsSpaced [c :: cs] text)
    (rest : List Char) :
  skipSpace (text ++ rest) = c :: (cs ++ rest)
  := by
  obtain ⟨behind, ⟨⟩, hskip⟩ := exists_skipSpace hc h
  exact hskip rest

theorem skipSpace_opening (hblanks : ∀ c ∈ blanks, isSpace c = true) (d : Document)
    (cs : List Char) :
  skipSpace (blanks ++ d.opening :: cs) = d.opening :: cs
  := by
  rw [skipSpace_append hblanks, skipSpace_cons d.opening_spec.1]

/-- A reader reads nothing that does not start with one of certain characters. -/
def Wants (reader : List Char → Reading α) (P : Char → Prop) : Prop :=
  ∀ ⦃cs read⦄, reader cs = .ok read → ∃ c ∈ (skipSpace cs).head?, P c

theorem Wants.settles_none {reader : List Char → Reading α} {P : Char → Prop}
    (h : Wants reader P) (hd : ¬ P d.opening) :
  Settles reader d.tokens none
  := by
  intro text htext rest _
  obtain ⟨blanks, cs, rfl, hblanks, -⟩ := Document.exists_opening htext
  cases hread : reader (blanks ++ d.opening :: cs ++ rest) with
  | error fault => rfl
  | ok read =>
      obtain ⟨c, hc, hP⟩ := h hread
      rw [List.append_assoc, List.cons_append, skipSpace_opening hblanks] at hc
      cases hc
      exact absurd hP hd

theorem isUniform_of_wants {reader : Reader α} {P : Nat → Char → Prop}
    (hwants : ∀ room, Wants (reader room) (P room))
    (h : ∀ room (d : Document), P room d.opening → ∃ x?, Settles (reader room) d.tokens x?) :
  IsUniform reader
  := by
  apply isUniform_of
  intro room d
  by_cases hd : P room d.opening
  · exact h room d hd
  · exact ⟨none, (hwants room).settles_none hd⟩

/-! ### Strings -/

theorem wants_readText (room : Nat) :
  Wants (readText room) (· = '"')
  := by
  intro cs read hread
  rw [readText] at hread
  split at hread
  · cases hread
  · next heq => exact ⟨'"', by rw [heq]; rfl, rfl⟩
  · cases hread

theorem settles_readText (room : Nat) (s : Spelling) :
  Settles (readText room) (Document.text s).tokens s.value?
  := by
  intro text htext rest _
  rw [readText, skipSpace_token (by decide) htext, List.append_assoc]
  exact s.readTextBody_append rest

theorem isUniform_readText :
  IsUniform readText
  := by
  apply isUniform_of_wants wants_readText
  intro room d hd
  obtain ⟨s, rfl⟩ := Document.exists_eq_text hd
  exact ⟨_, settles_readText room s⟩

/-! ### Integers -/

section

variable {wanted : String} {low bound : Int}

theorem wants_readInteger (room : Nat) :
  Wants (readInteger wanted low bound room) fun c => c = '-' ∨ c.isDigit = true
  := by
  intro cs read hread
  rw [readInteger] at hread
  split at hread
  · cases hread
  · next heq => exact ⟨'-', by rw [heq]; rfl, .inl rfl⟩
  · next c rest _ heq =>
    split at hread
    · next hc => exact ⟨c, by rw [heq]; rfl, .inr hc⟩
    · cases hread

/-- What is made of a number where an integer of a range is wanted. -/
def integerOf (low bound : Int) : Number → Option Int
  | .int i => if low ≤ i ∧ i < bound then some i else none
  | .double _ => none

theorem toOption_readInteger (room : Nat) (n : Numeral) (hcs : skipSpace cs = n.chars ++ rest) :
  (readInteger wanted low bound room cs).toOption
    = (readDigits n.isNegative (n.unsigned ++ rest)).toOption.bind fun (x, rest) =>
        (integerOf low bound x).map (·, rest)
  := by
  rw [readInteger, hcs, Numeral.chars]
  cases n.isNegative with
  | true =>
      simp only [if_true, List.cons_append]
      rcases readDigits true (n.unsigned ++ rest) with fault | ⟨i | x, rest⟩
      · rfl
      · by_cases hrange : low ≤ i ∧ i < bound <;> simp [Except.toOption, integerOf, hrange]
      · rfl
  | false =>
      obtain ⟨c, digits, hunsigned, hc⟩ := n.exists_unsigned
      rw [if_neg Bool.false_ne_true, hunsigned, List.cons_append]
      split
      · next heq => cases heq
      · next heq =>
        cases heq
        cases hc
      · next heq =>
        cases heq
        rw [if_pos hc]
        rcases readDigits false (c :: (digits ++ rest)) with fault | ⟨i | x, rest⟩
        · rfl
        · by_cases hrange : low ≤ i ∧ i < bound <;> simp [Except.toOption, integerOf, hrange]
        · rfl

theorem exists_settles_readInteger (room : Nat) (n : Numeral) :
  ∃ i?, Settles (readInteger wanted low bound room) (Document.number n).tokens i?
  := by
  have hskip : ∀ {text}, IsSpaced (Document.number n).tokens text → ∀ rest,
      skipSpace (text ++ rest) = n.chars ++ rest := by
    intro text htext
    obtain ⟨cs, more, htokens⟩ := (Document.number n).exists_tokens
    obtain ⟨hchars, -⟩ := List.cons.inj htokens
    rw [Document.tokens, hchars] at htext
    rw [hchars]
    exact skipSpace_token (Document.number n).opening_spec.1 htext
  obtain ⟨i, hi⟩ | hnever := n.readDigits_cases n.isNegative
  · use integerOf low bound (.int i)
    intro text htext rest hrest
    rw [toOption_readInteger room n (hskip htext rest), hi hrest]
    rfl
  · use none
    intro text htext rest hrest
    rw [toOption_readInteger room n (hskip htext rest)]
    rcases hread : readDigits n.isNegative (n.unsigned ++ rest) with fault | ⟨i | x, rest'⟩
    · rfl
    · exact absurd hread (hnever hrest i rest')
    · rfl

theorem isUniform_readInteger :
  IsUniform (readInteger wanted low bound)
  := by
  apply isUniform_of_wants wants_readInteger
  intro room d hd
  obtain ⟨n, rfl⟩ := Document.exists_eq_number hd
  exact exists_settles_readInteger room n

end

/-! ### Optional values -/

section

variable {reader : Reader α} {x? : Option α}

theorem settles_readOptional_null (reader : Reader α) (room : Nat) :
  Settles (readOptional reader room) Document.null.tokens (some none)
  := by
  intro text htext rest _
  rw [readOptional, skipSpace_token (by decide) htext]
  rfl

theorem settles_readOptional (hd : d.opening ≠ 'n') (h : Settles (reader room) d.tokens x?) :
  Settles (readOptional reader room) d.tokens (x?.map some)
  := by
  intro text htext rest hrest
  obtain ⟨blanks, cs, rfl, hblanks, hbody⟩ := Document.exists_opening htext
  have hread := h.map some hbody hrest
  rw [readOptional, List.append_assoc, List.cons_append, skipSpace_opening hblanks]
  split
  · next heq => exact absurd (List.cons.inj heq).1 hd
  · exact hread

theorem IsUniform.readOptional (h : IsUniform reader) :
  IsUniform (readOptional reader)
  := by
  apply isUniform_of
  intro room d
  by_cases hd : d.opening = 'n'
  · rw [Document.eq_null hd]
    exact ⟨_, settles_readOptional_null reader room⟩
  · exact ⟨_, settles_readOptional hd (h room d)⟩

end

/-! ### Lists -/

theorem stops_spaced {token : List Char} (h : IsSpaced ((c :: token) :: tokens) text)
    (hc : Stops [c]) (rest : List Char) :
  Stops (text ++ rest)
  := by
  obtain _ | @⟨blanks, _, behind, _, hblanks, -⟩ := h
  cases blanks with
  | nil => exact hc
  | cons b blanks =>
      rintro e ⟨⟩
      exact @stops_of_blank [b] (by simpa using hblanks b List.mem_cons_self) _ rfl

section

variable {item : List Char → Reading α} {read : List α} {items : List Document}

theorem readItems_append (hblanks : ∀ c ∈ blanks, isSpace c = true) (rounds : Nat) :
  readItems item read rounds (blanks ++ cs) = readItems item read rounds cs
  := by
  cases rounds with
  | zero => rfl
  | succ rounds => rw [readItems, readItems, skipSpace_append hblanks]

theorem readItems_comma_append (hread : read.isEmpty = false)
    (hblanks : ∀ c ∈ blanks, isSpace c = true) (rounds : Nat) :
  readItems item read rounds (',' :: (blanks ++ cs)) = readItems item read rounds (',' :: cs)
  := by
  cases rounds with
  | zero => rfl
  | succ rounds =>
      rw [readItems, readItems, skipSpace_cons (by decide), skipSpace_cons (by decide)]
      simp [hread, skipSpace_append hblanks]

theorem starts_opening (d : Document) (cs : List Char) :
  Starts (d.opening :: cs)
  := ⟨_, _, rfl, d.opening_spec.1, d.opening_spec.2.1⟩

/-- A round reads an item behind its comma. -/
theorem exists_readItems_spaced
    (h : IsSpaced (commaToken read.isEmpty ++ (d.tokens ++ tokens)) text) :
  ∃ piece behind, IsSpaced d.tokens piece ∧ IsSpaced tokens behind ∧ behind.length < text.length
    ∧ ∀ rounds rest, readItems item read (rounds + 1) (text ++ rest)
      = (item (piece ++ (behind ++ rest))).bind fun (x, rest) =>
          readItems item (x :: read) rounds rest
  := by
  obtain ⟨ahead, more, rfl, hahead, hmore⟩ := h.exists_append
  obtain ⟨front, behind, rfl, hfront, hbehind⟩ := hmore.exists_append
  obtain ⟨blanks, cs, rfl, hblanks, hpiece⟩ := Document.exists_opening hfront
  use d.opening :: cs, behind, hpiece, hbehind
  constructor
  · simp only [List.length_append, List.length_cons]
    omega
  · intro rounds rest
    rw [← readItems_piece (starts_opening d cs)]
    cases hread : read.isEmpty with
    | true =>
        rw [hread] at hahead
        cases hahead
        rw [List.nil_append, List.append_assoc, List.append_assoc, readItems_append hblanks]
        rfl
    | false =>
        rw [hread] at hahead
        obtain _ | @⟨blanks', _, _, _, hblanks', ⟨⟩⟩ := hahead
        rw [List.append_nil, List.append_assoc, List.append_assoc, readItems_append hblanks',
          List.singleton_append, List.append_assoc, List.append_assoc,
          readItems_comma_append hread hblanks]
        rfl

theorem stops_itemTokens (h : IsSpaced (itemTokens false items) text) (rest : List Char) :
  Stops (text ++ rest)
  := by
  cases items <;> exact stops_spaced h (stops_cons rfl (by decide) (by decide) (by decide)) rest

/-- The items of a list are read one by one. -/
theorem toOption_readItems (f : Document → Option α)
    (hitems : ∀ d ∈ items, Settles item d.tokens (f d)) (read : List α)
    (h : IsSpaced (itemTokens read.isEmpty items) text) {rounds : Nat}
    (hrounds : text.length < rounds) (rest : List Char) :
  (readItems item read rounds (text ++ rest)).toOption
    = (items.mapM f).map fun xs => (read.reverse ++ xs, rest)
  := by
  induction items generalizing read text rounds with
  | nil =>
      obtain ⟨rounds, rfl⟩ := Nat.exists_eq_add_one_of_ne_zero (Nat.ne_zero_of_lt hrounds)
      rw [readItems, skipSpace_token (by decide) h]
      simp [Except.toOption]
  | cons d items ih =>
      obtain ⟨rounds, rfl⟩ := Nat.exists_eq_add_one_of_ne_zero (Nat.ne_zero_of_lt hrounds)
      rw [List.forall_mem_cons] at hitems
      obtain ⟨piece, behind, hpiece, hbehind, hlength, hround⟩ := exists_readItems_spaced h
      have hx := hitems.1 hpiece (stops_itemTokens hbehind rest)
      rw [hround, toOption_bind, hx, List.mapM_cons]
      cases f d with
      | none => rfl
      | some x =>
          have hmore := ih hitems.2 (x :: read) hbehind
            (Nat.lt_of_lt_of_le hlength (Nat.le_of_lt_succ hrounds))
          simp only [Option.map_some, Option.bind_some, hmore]
          cases items.mapM f <;> simp

theorem wants_readList (item : Reader α) (room : Nat) :
  Wants (readList item room) fun c => c = '[' ∧ room ≠ 0
  := by
  intro cs read hread
  rw [readList.eq_def] at hread
  split at hread
  · cases hread
  · next heq =>
    split at hread
    · cases hread
    · exact ⟨'[', by rw [heq]; rfl, rfl, Nat.succ_ne_zero _⟩
  · cases hread

theorem settles_readList {item : Reader α} (hitem : IsUniform item) (room : Nat)
    (items : List Document) :
  Settles (readList item (room + 1)) (Document.list items).tokens (items.mapM (·.as? (item room)))
  := by
  intro text htext rest _
  have happend : IsSpaced ([['[']] ++ itemTokens true items) text := htext
  obtain ⟨front, behind, rfl, hfront, hbehind⟩ := happend.exists_append
  have hrounds : behind.length < (behind ++ rest).length + 1 := by
    rw [List.length_append]
    omega
  rw [readList, List.append_assoc, skipSpace_token (by decide) hfront]
  exact toOption_readItems _ (fun d _ => hitem room d) [] hbehind hrounds rest

theorem IsUniform.readList {item : Reader α} (hitem : IsUniform item) :
  IsUniform (readList item)
  := by
  apply isUniform_of_wants (wants_readList item)
  rintro (_ | room) d ⟨hd, hroom⟩
  · exact absurd rfl hroom
  · obtain ⟨items, rfl⟩ := Document.exists_eq_list hd
    exact ⟨_, settles_readList hitem room items⟩

end

/-! ### Whole texts -/

/-- What is read from a text that holds nothing but a document. -/
theorem Document.IsWritten.toOption_ofText {text : String} (h : d.IsWritten text)
    {reader : Reader α} (huniform : IsUniform reader) :
  (ofText reader text).toOption = d.as? (reader maxNesting)
  := by
  obtain ⟨body, ending, rfl, hbody, hending⟩ := h
  have hread := huniform maxNesting d hbody (stops_of_blank hending)
  have hskip : skipSpace ending = [] := List.dropWhile_eq_nil_iff.mpr hending
  rw [ofText, String.toList_ofList]
  rcases hparsed : reader maxNesting (body ++ ending) with fault | ⟨x, rest⟩
  · rw [hparsed] at hread
    cases hd : d.as? (reader maxNesting) with
    | none => rfl
    | some x =>
        rw [hd] at hread
        cases hread
  · rw [hparsed] at hread
    cases hd : d.as? (reader maxNesting) with
    | none =>
        rw [hd] at hread
        cases hread
    | some x =>
        rw [hd] at hread
        cases hread
        simp [bind, Except.bind, hskip, pure, Except.pure, Except.toOption]

end JoinBench.Json
