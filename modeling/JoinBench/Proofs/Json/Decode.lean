import JoinBench.Proofs.Json.RoundTrip
import JoinBench.Text.Numeral
import Mathlib.Data.List.TakeWhile

/-!
# Reading records that were written

How the readers of numbers, optional values, maps and records read texts of which the parts can
be read, and how they fail where one of the parts cannot.
-/

namespace JoinBench.Json

variable {α β σ : Type} {text : List Char} {problem : Problem} {room : Nat}

theorem Reads.map {reader : List Char → Reading α} {x : α} (hx : Reads reader text x) (f : α → β) :
  Reads (fun cs => (reader cs).map fun (x, rest) => (f x, rest)) text (f x)
  := by
  intro rest hrest
  simp only [hx hrest]
  rfl

theorem Meets.map {reader : List Char → Reading α} (hmeets : Meets reader text problem)
    (f : α → β) :
  Meets (fun cs => (reader cs).map fun (x, rest) => (f x, rest)) text problem
  := by
  intro rest
  obtain ⟨left, hfault⟩ := hmeets rest
  use left
  simp only [hfault]
  rfl

/-- A natural number is read as a number of any type that has room for it. -/
theorem reads_readNat (wanted : String) (room : Nat) {n bound : Nat} (hn : n < bound)
    (hbound : bound ≤ Text.bound64) :
  Reads (readNat wanted bound room) (renderInt n) n
  := by
  intro rest hrest
  have hroom : n < 18446744073709551616 := Nat.lt_of_lt_of_le hn hbound
  have hfits : Fits n := by
    constructor <;> omega
  rw [readNat, readInteger_renderInt wanted room hfits (by omega) (by omega) hrest]
  rfl

/-! ### Optional values -/

section

variable {reader : Reader α} {c : Char} {cs : List Char}

theorem reads_readOptional_null (reader : Reader α) (room : Nat) :
  Reads (readOptional reader room) (render .null) none
  := fun _ _ => rfl

/-- A text that starts otherwise than `null` is left to the reader of the values. -/
theorem readOptional_cons (hspace : isSpace c = false) (hnull : c ≠ 'n') :
  readOptional reader room (c :: cs) = (reader room (c :: cs)).map fun (x, rest) => (some x, rest)
  := by
  rw [readOptional, skipSpace_cons hspace]
  split
  · next heq =>
    cases heq
    exact absurd rfl hnull
  · rfl

theorem reads_readOptional {x : α} (hx : Reads (reader room) text x) (htext : text = c :: cs)
    (hspace : isSpace c = false) (hnull : c ≠ 'n') :
  Reads (readOptional reader room) text (some x)
  := by
  intro rest hrest
  have hread := hx.map some hrest
  rw [htext, List.cons_append] at hread ⊢
  rw [readOptional_cons hspace hnull]
  exact hread

theorem meets_readOptional (hmeets : Meets (reader room) text problem) (htext : text = c :: cs)
    (hspace : isSpace c = false) (hnull : c ≠ 'n') :
  Meets (readOptional reader room) text problem
  := by
  intro rest
  have hread := hmeets.map some rest
  rw [htext, List.cons_append] at hread ⊢
  rw [readOptional_cons hspace hnull]
  exact hread

end

/-! ### Maps -/

theorem readMap_brace (value : Reader α) (room : Nat) (cs : List Char) :
  readMap value (room + 1) ('\x7b' :: cs)
    = readMembers (storeMember (value room)) true [] (cs.length + 1) cs
  := rfl

theorem reads_readMap {value : Reader α} {write : α → List Char} {members : List (String × α)}
    (hordered : members.Pairwise (·.1 < ·.1))
    (hmembers : ∀ m ∈ members, Reads (value room) (write m.2) m.2) :
  Reads (readMap value (room + 1)) (objectText (members.map fun m => (m.1, write m.2))) members
  := by
  intro rest _
  rw [objectText_append, readMap_brace]
  exact readMembers_storeMember_eq_ok hordered hmembers rfl

theorem meets_readMap {value : Reader α} {write : α → List Char} {ahead behind : List (String × α)}
    {m : String × α} (hordered : ahead.Pairwise (·.1 < ·.1))
    (hahead : ∀ m ∈ ahead, Reads (value room) (write m.2) m.2)
    (hm : Meets (value room) (write m.2) problem) :
  Meets (readMap value (room + 1))
    (objectText ((ahead ++ m :: behind).map fun m => (m.1, write m.2))) problem
  := by
  intro rest
  rw [objectText_append, readMap_brace]
  exact readMembers_storeMember_eq_error hordered hahead hm rfl

/-! ### Records -/

section

variable {record : Record σ} {field : Field σ} {draft draft' : σ} {name : String}

theorem reads_of {get : σ → Option α} {set : σ → α → σ} {reader : Reader α} {x : α}
    (hx : Reads (reader room) text x) :
  Reads ((Field.of name get set reader).read draft room) text (set draft x)
  := hx.map (set draft)

theorem meets_of {get : σ → Option α} {set : σ → α → σ} {reader : Reader α}
    (hmeets : Meets (reader room) text problem) :
  Meets ((Field.of name get set reader).read draft room) text problem
  := hmeets.map (set draft)

/-- A field that is not set yet is read from a member of its name. -/
theorem readField_colon (hfind : record.fields.find? (·.isNamed name) = some field)
    (hunset : field.isSet draft = false) (cs : List Char) :
  readField record room draft name (':' :: cs) = field.read draft room cs
  := by
  have hcolon : readColon (':' :: cs) = .ok cs := rfl
  simp [readField, hfind, hunset, hcolon]

theorem reads_readField (hfind : record.fields.find? (·.isNamed name) = some field)
    (hunset : field.isSet draft = false) (hvalue : Reads (field.read draft room) text draft') :
  Reads (readField record room draft name) (':' :: text) draft'
  := by
  intro rest hrest
  rw [List.cons_append, readField_colon hfind hunset]
  exact hvalue hrest

theorem meets_readField (hfind : record.fields.find? (·.isNamed name) = some field)
    (hunset : field.isSet draft = false) (hvalue : Meets (field.read draft room) text problem) :
  Meets (readField record room draft name) (':' :: text) problem
  := by
  intro rest
  rw [List.cons_append, readField_colon hfind hunset]
  exact hvalue rest

/-- A record is read from an object whose members make up a complete draft. -/
theorem reads_readRecord {members : List (String × List Char)}
    (hgathers : Gathers (readField record room) draft members draft')
    (hcomplete : record.missing? draft' = none) :
  Reads (readRecord record draft (room + 1)) (objectText members) draft'
  := by
  intro rest _
  rw [objectText_append, readRecord, skipSpace_cons (by decide)]
  simp only [readMembers_eq_ok hgathers rfl, hcomplete]

theorem meets_readRecord {ahead behind : List (String × List Char)} {value : List Char}
    (hgathers : Gathers (readField record room) draft ahead draft')
    (hvalue : Meets (readField record room draft' name) (':' :: value) problem) :
  Meets (readRecord record draft (room + 1)) (objectText (ahead ++ (name, value) :: behind)) problem
  := by
  intro rest
  rw [objectText_append, List.map_append, List.map_cons, readRecord, skipSpace_cons (by decide)]
  obtain ⟨left, hread⟩ := readMembers_eq_error hgathers hvalue (behind.map memberText) rest rfl
  use left
  simp only [hread]

end

/-! ### Whole texts -/

section

variable {reader : Reader α} {x : α} {ending : List Char}

theorem stops_of_blank (hblank : ∀ c ∈ ending, isSpace c = true) :
  Stops ending
  := by
  intro c hc
  have hspace := hblank c (List.mem_of_mem_head? hc)
  simp only [isSpace, Bool.or_eq_true, decide_eq_true_eq] at hspace
  rcases hspace with ((rfl | rfl) | rfl) | rfl <;> decide

/-- A whole text may end in blanks. -/
theorem ofText_eq_ok (hx : Reads (reader maxNesting) text x)
    (hblank : ∀ c ∈ ending, isSpace c = true) :
  ofText reader (String.ofList (text ++ ending)) = .ok x
  := by
  have hskip : skipSpace ending = [] := List.dropWhile_eq_nil_iff.mpr hblank
  rw [ofText, String.toList_ofList, hx (stops_of_blank hblank)]
  simp [bind, Except.bind, hskip, pure, Except.pure]

theorem exists_ofText_eq_error (hmeets : Meets (reader maxNesting) text problem)
    (ending : List Char) :
  ∃ left, ofText reader (String.ofList (text ++ ending)) = .error ⟨problem, left⟩
  := by
  obtain ⟨left, hfault⟩ := hmeets ending
  use left
  rw [ofText, String.toList_ofList, hfault]
  rfl

end

end JoinBench.Json
