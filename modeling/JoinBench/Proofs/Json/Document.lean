import JoinBench.Proofs.Json.Number
import Mathlib.Logic.Relation

/-!
# Documents

What a JSON text is made of before anything is made of it: numbers and strings as they are spelt,
lists, and objects whose members stand in an order.  A document is written as a sequence of tokens,
each with any blanks ahead of it.
-/

namespace JoinBench.Json

variable {c : Char} {cs blanks text rest : List Char} {tokens more : List (List Char)}

/-! ### Numbers -/

/-- One or more digits. -/
def AreDigits (cs : List Char) : Prop :=
  cs ≠ [] ∧ ∀ c ∈ cs, c.isDigit = true

/-- A number as it is spelt. -/
structure Numeral where
  isNegative : Bool
  /-- The digits of the integer part. -/
  whole : List Char
  /-- The fraction with its point, or nothing. -/
  fraction : List Char
  /-- The exponent with its letter, or nothing. -/
  exponent : List Char
  areDigits : AreDigits whole
  /-- No zero leads, unless it is the only digit. -/
  head_ne : whole ≠ ['0'] → whole.head? ≠ some '0'
  fraction_eq : fraction = [] ∨ ∃ digits, fraction = '.' :: digits ∧ AreDigits digits
  exponent_eq : exponent = [] ∨ ∃ letter sign digits, exponent = letter :: (sign ++ digits)
    ∧ letter ∈ ['e', 'E'] ∧ sign ∈ [[], ['+'], ['-']] ∧ AreDigits digits

namespace Numeral

/-- The characters of a number behind its sign. -/
def unsigned (n : Numeral) : List Char :=
  n.whole ++ (n.fraction ++ n.exponent)

/-- The characters of a number. -/
def chars (n : Numeral) : List Char :=
  if n.isNegative then '-' :: n.unsigned else n.unsigned

theorem exists_unsigned (n : Numeral) :
  ∃ c rest, n.unsigned = c :: rest ∧ c.isDigit = true
  := by
  obtain ⟨hne, hdigits⟩ := n.areDigits
  obtain ⟨c, digits, hwhole⟩ := List.exists_cons_of_ne_nil hne
  rw [hwhole, List.forall_mem_cons] at hdigits
  exact ⟨c, _, by rw [unsigned, hwhole, List.cons_append], hdigits.1⟩

end Numeral

/-! ### Strings -/

/-- What may stand between the quotes of a string: characters that are no control characters,
except for quotes and backslashes, and escapes. -/
inductive IsBody : List Char → Prop where
  | nil : IsBody []
  | plain {c : Char} {cs : List Char} (hquote : c ≠ '"') (hslash : c ≠ '\\') (hc : 0x20 ≤ c.toNat)
    (hcs : IsBody cs) : IsBody (c :: cs)
  | escape {c : Char} {cs : List Char} (hc : c ∈ ['"', '\\', '/', 'b', 'f', 'n', 'r', 't'])
    (hcs : IsBody cs) : IsBody ('\\' :: c :: cs)
  | unicode {n : Nat} {a b c d : Char} {cs : List Char} (hn : hexValue4? a b c d = some n)
    (hcs : IsBody cs) : IsBody ('\\' :: 'u' :: a :: b :: c :: d :: cs)

/-- A string as it is spelt. -/
structure Spelling where
  /-- What stands between the quotes. -/
  body : List Char
  isBody : IsBody body

namespace Spelling

/-- The characters of a string. -/
def chars (s : Spelling) : List Char :=
  '"' :: (s.body ++ ['"'])

/-- The string that is spelt.  There is none where a half of a surrogate pair stands alone. -/
def value? (s : Spelling) : Option String :=
  (readTextBody (s.body ++ ['"'])).toOption.map (·.1)

/-- A character that may be spelt as itself. -/
def isPlain (c : Char) : Bool :=
  c ≠ '"' && c ≠ '\\' && 0x20 ≤ c.toNat

theorem isBody_of_all (h : cs.all isPlain = true) :
  IsBody cs
  := by
  induction cs with
  | nil => exact .nil
  | cons c cs ih =>
      simp only [List.all_cons, isPlain, Bool.and_eq_true, decide_eq_true_eq] at h
      obtain ⟨⟨⟨hquote, hslash⟩, hc⟩, hcs⟩ := h
      exact .plain hquote hslash hc (ih hcs)

/-- A string that is spelt without escapes. -/
def plain (value : String) (h : value.toList.all isPlain = true) : Spelling :=
  ⟨value.toList, isBody_of_all h⟩

end Spelling

/-! ### Documents -/

/-- A JSON text as a tree. -/
inductive Document where
  | null
  | bool (value : Bool)
  | number (n : Numeral)
  | text (s : Spelling)
  | list (items : List Document)
  | object (members : List (Spelling × Document))

/-- The comma ahead of an item or a member, unless it is the first. -/
def commaToken (first : Bool) : List (List Char) :=
  if first then [] else [[',']]

mutual

/-- The tokens of a document. -/
def Document.tokens : Document → List (List Char)
  | .null => ["null".toList]
  | .bool value => [if value then "true".toList else "false".toList]
  | .number n => [n.chars]
  | .text s => [s.chars]
  | .list items => ['['] :: itemTokens true items
  | .object members => ['\x7b'] :: memberTokens true members

/-- The tokens from the next item of a list on. -/
def itemTokens : (first : Bool) → List Document → List (List Char)
  | _, [] => [[']']]
  | first, item :: items => commaToken first ++ (item.tokens ++ itemTokens false items)

/-- The tokens from the next member of an object on. -/
def memberTokens : (first : Bool) → List (Spelling × Document) → List (List Char)
  | _, [] => [['\x7d']]
  | first, (name, value) :: members =>
    commaToken first ++ (name.chars :: [':'] :: (value.tokens ++ memberTokens false members))

end

/-- A text consists of tokens with blanks ahead of each. -/
inductive IsSpaced : (tokens : List (List Char)) → (text : List Char) → Prop where
  | nil : IsSpaced [] []
  | cons {blanks token text : List Char} {tokens : List (List Char)}
    (hblanks : ∀ c ∈ blanks, isSpace c = true) (htext : IsSpaced tokens text) :
    IsSpaced (token :: tokens) (blanks ++ (token ++ text))

namespace IsSpaced

theorem exists_append (h : IsSpaced (tokens ++ more) text) :
  ∃ front behind, text = front ++ behind ∧ IsSpaced tokens front ∧ IsSpaced more behind
  := by
  induction tokens generalizing text with
  | nil => exact ⟨[], text, rfl, .nil, h⟩
  | cons token tokens ih =>
      obtain _ | @⟨blanks, _, _, _, hblanks, htext⟩ := h
      obtain ⟨front, behind, rfl, hfront, hbehind⟩ := ih htext
      use blanks ++ (token ++ front), behind
      rw [List.append_assoc, List.append_assoc]
      exact ⟨rfl, .cons hblanks hfront, hbehind⟩

/-- The text without any blanks. -/
theorem flatten (tokens : List (List Char)) :
  IsSpaced tokens tokens.flatten
  := by
  induction tokens with
  | nil => exact .nil
  | cons token tokens ih => exact .cons (List.forall_mem_nil _) ih

end IsSpaced

theorem skipSpace_append (hblanks : ∀ c ∈ blanks, isSpace c = true) (cs : List Char) :
  skipSpace (blanks ++ cs) = skipSpace cs
  := List.dropWhile_append_of_pos hblanks

namespace Document

variable {d d' : Document}

/-- A text that holds nothing but a document. -/
def IsWritten (d : Document) (text : String) : Prop :=
  ∃ body ending, text = .ofList (body ++ ending) ∧ IsSpaced d.tokens body
    ∧ ∀ c ∈ ending, isSpace c = true

/-- The character that a document starts with. -/
def opening : Document → Char
  | .null => 'n'
  | .bool value => if value then 't' else 'f'
  | .number n => if n.isNegative then '-' else n.whole.headD '0'
  | .text _ => '"'
  | .list _ => '['
  | .object _ => '\x7b'

theorem isDigit_opening (n : Numeral) :
  (number n).opening = '-' ∨ (number n).opening.isDigit = true
  := by
  rw [opening]
  split
  · exact .inl rfl
  · obtain ⟨hne, hdigits⟩ := n.areDigits
    obtain ⟨c, digits, hwhole⟩ := List.exists_cons_of_ne_nil hne
    rw [hwhole] at hdigits ⊢
    exact .inr (hdigits c List.mem_cons_self)

theorem opening_number_ne (n : Numeral) {c : Char} (hminus : c ≠ '-') (hdigit : c.isDigit = false) :
  (number n).opening ≠ c
  := by
  rintro rfl
  obtain hopening | hopening := isDigit_opening n
  · exact hminus hopening
  · rw [hdigit] at hopening
    cases hopening

/-- A document starts with a character that is neither a blank nor closes anything. -/
theorem opening_spec (d : Document) :
  isSpace d.opening = false ∧ d.opening ≠ ']' ∧ d.opening ≠ ','
  := by
  cases d with
  | bool value => cases value <;> decide
  | number n =>
      obtain hminus | hdigit := isDigit_opening n
      · rw [hminus]
        decide
      · exact ⟨isSpace_of_isDigit hdigit, opening_number_ne n (by decide) rfl,
          opening_number_ne n (by decide) rfl⟩
  | _ => exact ⟨rfl, nofun, nofun⟩

theorem eq_null (h : d.opening = 'n') :
  d = .null
  := by
  cases d with
  | null => rfl
  | bool value => cases value <;> cases h
  | number n => exact absurd h (opening_number_ne n (by decide) rfl)
  | _ => cases h

theorem exists_eq_number (h : d.opening = '-' ∨ d.opening.isDigit = true) :
  ∃ n, d = .number n
  := by
  cases d with
  | bool value => cases value <;> obtain ⟨⟨⟩⟩ | ⟨⟨⟩⟩ := h
  | number n => exact ⟨n, rfl⟩
  | _ => obtain ⟨⟨⟩⟩ | ⟨⟨⟩⟩ := h

theorem exists_eq_text (h : d.opening = '"') :
  ∃ s, d = .text s
  := by
  cases d with
  | bool value => cases value <;> cases h
  | number n => exact absurd h (opening_number_ne n (by decide) rfl)
  | text s => exact ⟨s, rfl⟩
  | _ => cases h

theorem exists_eq_list (h : d.opening = '[') :
  ∃ items, d = .list items
  := by
  cases d with
  | bool value => cases value <;> cases h
  | number n => exact absurd h (opening_number_ne n (by decide) rfl)
  | list items => exact ⟨items, rfl⟩
  | _ => cases h

theorem exists_eq_object (h : d.opening = '\x7b') :
  ∃ members, d = .object members
  := by
  cases d with
  | bool value => cases value <;> cases h
  | number n => exact absurd h (opening_number_ne n (by decide) rfl)
  | object members => exact ⟨members, rfl⟩
  | _ => cases h

theorem exists_tokens (d : Document) :
  ∃ cs more, d.tokens = (d.opening :: cs) :: more
  := by
  cases d with
  | bool value => cases value <;> exact ⟨_, _, rfl⟩
  | number n =>
      obtain ⟨hne, -⟩ := n.areDigits
      obtain ⟨c, digits, hwhole⟩ := List.exists_cons_of_ne_nil hne
      rw [tokens, opening, Numeral.chars, Numeral.unsigned, hwhole]
      cases n.isNegative <;> exact ⟨_, _, rfl⟩
  | _ => exact ⟨_, _, rfl⟩

/-- A text of a document is one that starts with the opening of the document, behind blanks. -/
theorem exists_opening (h : IsSpaced d.tokens text) :
  ∃ blanks cs, text = blanks ++ d.opening :: cs ∧ (∀ c ∈ blanks, isSpace c = true)
    ∧ IsSpaced d.tokens (d.opening :: cs)
  := by
  obtain ⟨cs, more, htokens⟩ := d.exists_tokens
  rw [htokens] at h ⊢
  obtain _ | @⟨blanks, _, behind, _, hblanks, hbehind⟩ := h
  exact ⟨blanks, cs ++ behind, rfl, hblanks, .cons (List.forall_mem_nil _) hbehind⟩

/-! ### Names of members -/

/-- Two strings are spelt that are the same. -/
def SameName (s s' : Spelling) : Prop :=
  ∃ name, s.value? = some name ∧ s'.value? = some name

/-- No object has two members of one name. -/
inductive HasUniqueNames : Document → Prop where
  | null : HasUniqueNames .null
  | bool (value : Bool) : HasUniqueNames (.bool value)
  | number (n : Numeral) : HasUniqueNames (.number n)
  | text (s : Spelling) : HasUniqueNames (.text s)
  | list {items : List Document} (hitems : ∀ item ∈ items, HasUniqueNames item) :
    HasUniqueNames (.list items)
  | object {members : List (Spelling × Document)}
    (hnames : members.Pairwise fun m m' => ¬ SameName m.1 m'.1)
    (hvalues : ∀ m ∈ members, HasUniqueNames m.2) : HasUniqueNames (.object members)

/-- Objects of two members of different names. -/
theorem HasUniqueNames.pair {s s' : Spelling} (hname : s.value? ≠ s'.value?)
    (hd : d.HasUniqueNames) (hd' : d'.HasUniqueNames) :
  (Document.object [(s, d), (s', d')]).HasUniqueNames
  := by
  apply HasUniqueNames.object
  · rw [List.pairwise_pair]
    rintro ⟨name, h, h'⟩
    exact hname (h.trans h'.symm)
  · rw [List.forall_mem_cons, List.forall_mem_singleton]
    exact ⟨hd, hd'⟩

theorem HasUniqueNames.of_list {before after : List Document}
    (h : (Document.list (before ++ d :: after)).HasUniqueNames) :
  d.HasUniqueNames
  := by
  obtain _ | _ | _ | _ | hitems | _ := h
  exact hitems d (by simp)

theorem HasUniqueNames.of_object {before after : List (Spelling × Document)} {name : Spelling}
    (h : (Document.object (before ++ (name, d) :: after)).HasUniqueNames) :
  d.HasUniqueNames
  := by
  obtain _ | _ | _ | _ | _ | ⟨-, hvalues⟩ := h
  exact hvalues (name, d) (by simp)

/-! ### Orders of members -/

/-- The members of one object inside a document stand in another order. -/
inductive Swaps : Document → Document → Prop where
  | members {members members' : List (Spelling × Document)} (h : members.Perm members') :
    Swaps (.object members) (.object members')
  | item {d d' : Document} (before after : List Document) (h : Swaps d d') :
    Swaps (.list (before ++ d :: after)) (.list (before ++ d' :: after))
  | value {d d' : Document} (before after : List (Spelling × Document)) (name : Spelling)
    (h : Swaps d d') :
    Swaps (.object (before ++ (name, d) :: after)) (.object (before ++ (name, d') :: after))

/-- The members of any objects inside a document stand in other orders. -/
def Permutes : Document → Document → Prop :=
  Relation.ReflTransGen Swaps

theorem HasUniqueNames.swap (h : d.HasUniqueNames) (hswaps : Swaps d d') :
  d'.HasUniqueNames
  := by
  induction hswaps with
  | members hperm =>
      obtain _ | _ | _ | _ | _ | ⟨hnames, hvalues⟩ := h
      constructor
      · apply (hperm.pairwise_iff _).mp hnames
        rintro m m' hm ⟨name, hm', hname⟩
        exact hm ⟨name, hname, hm'⟩
      · intro m hm
        exact hvalues m (hperm.mem_iff.mpr hm)
  | item before after _ ih =>
      obtain _ | _ | _ | _ | hitems | _ := h
      rw [List.forall_mem_append, List.forall_mem_cons] at hitems
      obtain ⟨hbefore, hd, hafter⟩ := hitems
      constructor
      rw [List.forall_mem_append, List.forall_mem_cons]
      exact ⟨hbefore, ih hd, hafter⟩
  | value before after name _ ih =>
      obtain _ | _ | _ | _ | _ | ⟨hnames, hvalues⟩ := h
      rw [List.forall_mem_append, List.forall_mem_cons] at hvalues
      obtain ⟨hbefore, hd, hafter⟩ := hvalues
      constructor
      · rw [List.pairwise_append, List.pairwise_cons] at hnames ⊢
        simpa only [List.forall_mem_cons] using hnames
      · rw [List.forall_mem_append, List.forall_mem_cons]
        exact ⟨hbefore, ih hd, hafter⟩

/-- Only a list or an object has objects inside. -/
theorem Swaps.opening_eq (h : Swaps d d') :
  d'.opening = d.opening ∧ (d.opening = '[' ∨ d.opening = '\x7b')
  := by
  cases h with
  | members | value => exact ⟨rfl, .inr rfl⟩
  | item => exact ⟨rfl, .inl rfl⟩

end Document

end JoinBench.Json
