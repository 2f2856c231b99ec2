import JoinBench.Proofs.Json.Number
import JoinBench.Proofs.Json.Text

/-!
# Reading lists and objects that were written

Between brackets stand pieces with commas between them.  A round of reading takes one piece with
the comma ahead of it, so reading goes through the pieces that can be read, and either closes the
bracket behind them or meets the problem of the first that cannot.
-/

namespace JoinBench.Json

/-- A reader reads a text as a value, whatever follows. -/
def Reads (reader : List Char → Reading α) (text : List Char) (x : α) : Prop :=
  ∀ ⦃rest⦄, Stops rest → reader (text ++ rest) = .ok (x, rest)

/-- A reader meets a problem in a text, whatever follows. -/
def Meets (reader : List Char → Reading α) (text : List Char) (problem : Problem) : Prop :=
  ∀ rest, ∃ left, reader (text ++ rest) = .error ⟨problem, left⟩

/-- The comma ahead of a piece, unless it is the first. -/
def comma (first : Bool) : List Char :=
  if first then [] else [',']

/-- Pieces with commas between them, and with a comma ahead unless they are the first. -/
def separated : (first : Bool) → List (List Char) → List Char
  | _, [] => []
  | first, piece :: pieces => comma first ++ (piece ++ separated false pieces)

variable {first : Bool} {pieces more : List (List Char)} {tail rest : List Char} {rounds : Nat}
  {problem : Problem}

/-- Behind a piece stands a comma or what follows all of them. -/
theorem stops_separated (htail : Stops tail) (pieces : List (List Char)) :
  Stops (separated false pieces ++ tail)
  := by
  cases pieces with
  | nil => exact htail
  | cons piece pieces => apply stops_cons <;> decide

/-- A round for each character and one for the bracket are more rounds than pieces. -/
theorem length_lt_of_separated (first : Bool) (hpieces : ∀ piece ∈ pieces, piece ≠ [])
    (more : List (List Char)) (tail : List Char) :
  pieces.length < (separated first (pieces ++ more) ++ tail).length + 1
  := by
  induction pieces generalizing first with
  | nil => exact Nat.succ_pos _
  | cons piece pieces ih =>
      have hpos := List.length_pos_iff.mpr (hpieces piece List.mem_cons_self)
      have hrest := ih false fun other hother => hpieces other (List.mem_cons_of_mem piece hother)
      simp only [List.cons_append, separated, List.length_append, List.length_cons] at hrest ⊢
      omega

/-! ### Lists -/

section

variable {α : Type} {item : List Char → Reading α} {write : α → List Char} {read items : List α}
  {piece cs : List Char}

/-- A piece starts with a character that is neither a blank nor closes a list. -/
def Starts (piece : List Char) : Prop :=
  ∃ c cs, piece = c :: cs ∧ isSpace c = false ∧ c ≠ ']'

theorem Starts.ne_nil (hstart : Starts piece) :
  piece ≠ []
  := by
  obtain ⟨c, cs, rfl, -⟩ := hstart
  exact List.cons_ne_nil c cs

/-- A round reads a piece behind its comma. -/
theorem readItems_piece (hstart : Starts piece) (rounds : Nat) (tail : List Char) :
  readItems item read (rounds + 1) (comma read.isEmpty ++ (piece ++ tail))
    = (item (piece ++ tail)).bind fun (x, rest) => readItems item (x :: read) rounds rest
  := by
  obtain ⟨c, cs, rfl, hspace, hclose⟩ := hstart
  cases read with
  | nil =>
      rw [List.isEmpty_nil, comma, if_pos rfl, List.nil_append, List.cons_append, readItems,
        skipSpace_cons hspace]
      cases hitem : item (c :: (cs ++ tail)) <;> simp [hitem, Except.bind]
  | cons y read =>
      rw [List.isEmpty_cons, comma, if_neg Bool.false_ne_true, List.singleton_append,
        List.cons_append, readItems, skipSpace_cons (by decide)]
      cases hitem : item (c :: (cs ++ tail)) <;>
        simp [skipSpace_cons hspace, hclose, hitem, Except.bind]

/-- Reading goes through items that can be read. -/
theorem readItems_separated (read : List α) (hstarts : ∀ x ∈ items, Starts (write x))
    (hitems : ∀ x ∈ items, Reads item (write x) x) (more : List (List Char)) (htail : Stops tail)
    (rounds : Nat) :
  readItems item read (rounds + items.length)
      (separated read.isEmpty (items.map write ++ more) ++ tail)
    = readItems item (items.reverse ++ read) rounds
        (separated (items.reverse ++ read).isEmpty more ++ tail)
  := by
  induction items generalizing read with
  | nil => rfl
  | cons x items ih =>
      rw [List.forall_mem_cons] at hstarts hitems
      have hx := hitems.1 (stops_separated htail (items.map write ++ more))
      rw [List.map_cons, List.cons_append, separated, List.append_assoc, List.append_assoc,
        List.length_cons, ← Nat.add_assoc, readItems_piece hstarts.1, hx, List.reverse_cons,
        List.append_assoc, List.singleton_append]
      exact ih (x :: read) hstarts.2 hitems.2

/-- A list is read up to what follows the items that can be read, with a round left at least. -/
theorem exists_readItems (hstarts : ∀ x ∈ items, Starts (write x))
    (hitems : ∀ x ∈ items, Reads item (write x) x) (more : List (List Char)) (htail : Stops tail)
    (hcs : cs = separated true (items.map write ++ more) ++ tail) :
  ∃ spare, readItems item [] (cs.length + 1) cs
    = readItems item items.reverse (spare + 1) (separated items.reverse.isEmpty more ++ tail)
  := by
  have hrounds := length_lt_of_separated true
    (List.forall_mem_map.mpr fun x hx => (hstarts x hx).ne_nil) more tail
  rw [List.length_map, ← hcs] at hrounds
  obtain ⟨spare, hspare⟩ : ∃ spare, cs.length + 1 = spare + 1 + items.length :=
    ⟨cs.length - items.length, by omega⟩
  use spare
  rw [hspare, hcs]
  have hread := readItems_separated [] hstarts hitems more htail (spare + 1)
  rw [List.append_nil] at hread
  exact hread

/-- A list is read if all its items are. -/
theorem readItems_eq_ok (hstarts : ∀ x ∈ items, Starts (write x))
    (hitems : ∀ x ∈ items, Reads item (write x) x)
    (hcs : cs = separated true (items.map write) ++ ']' :: rest) :
  readItems item [] (cs.length + 1) cs = .ok (items, rest)
  := by
  have hclose : Stops (']' :: rest) := by
    apply stops_cons <;> decide
  rw [← List.append_nil (items.map write)] at hcs
  obtain ⟨spare, hread⟩ := exists_readItems hstarts hitems [] hclose hcs
  rw [hread, separated, List.nil_append, readItems, skipSpace_cons (by decide)]
  simp only [List.reverse_reverse]

/-- Reading a list stops at the first item that cannot be read. -/
theorem readItems_eq_error {behind : List α} {x : α} (hstarts : ∀ y ∈ items, Starts (write y))
    (hitems : ∀ y ∈ items, Reads item (write y) y) (hstart : Starts (write x))
    (hx : Meets item (write x) problem)
    (hcs : cs = separated true ((items ++ x :: behind).map write) ++ ']' :: rest) :
  ∃ left, readItems item [] (cs.length + 1) cs = .error ⟨problem, left⟩
  := by
  have hclose : Stops (']' :: rest) := by
    apply stops_cons <;> decide
  rw [List.map_append, List.map_cons] at hcs
  obtain ⟨spare, hread⟩ := exists_readItems hstarts hitems _ hclose hcs
  obtain ⟨left, hfault⟩ := hx (separated false (behind.map write) ++ ']' :: rest)
  use left
  rw [hread, separated, List.append_assoc, List.append_assoc, readItems_piece hstart, hfault]
  rfl

end

/-! ### Objects -/

/-- The text of a member, given by its name and the text of its value. -/
def memberText (m : String × List Char) : List Char :=
  renderText m.1 ++ ':' :: m.2

theorem memberText_append (name : String) (value tail : List Char) :
  memberText (name, value) ++ tail
    = '"' :: (name.toList.flatMap escape ++ '"' :: (':' :: value ++ tail))
  := by
  simp [memberText, renderText]

theorem memberText_ne_nil (m : String × List Char) :
  memberText m ≠ []
  := by
  simp [memberText, renderText]

/-- The text of an object, given by its members. -/
def objectText (members : List (String × List Char)) : List Char :=
  '\x7b' :: separated true (members.map memberText) ++ ['\x7d']

theorem objectText_append (members : List (String × List Char)) (rest : List Char) :
  objectText members ++ rest
    = '\x7b' :: (separated true (members.map memberText) ++ '\x7d' :: rest)
  := by
  simp [objectText]

section

variable {σ : Type} {member : σ → String → List Char → Reading σ} {gathered gathered' : σ}
  {name : String} {value cs : List Char} {members : List (String × List Char)}

/-- Members, given by their names and the texts of their values, are gathered one by one. -/
inductive Gathers (member : σ → String → List Char → Reading σ) :
    σ → List (String × List Char) → σ → Prop where
  | nil (gathered : σ) : Gathers member gathered [] gathered
  | cons {gathered next gathered' : σ} {name : String} {value : List Char}
    {members : List (String × List Char)}
    (hfirst : Reads (member gathered name) (':' :: value) next)
    (hrest : Gathers member next members gathered') :
    Gathers member gathered ((name, value) :: members) gathered'

theorem Gathers.append {next : σ} {more : List (String × List Char)}
    (hmembers : Gathers member gathered members next) (hmore : Gathers member next more gathered') :
  Gathers member gathered (members ++ more) gathered'
  := by
  induction hmembers with
  | nil => exact hmore
  | cons hfirst _ ih => exact .cons hfirst (ih hmore)

/-- A round reads the name of a member behind its comma, and gathers the member. -/
theorem readMembers_piece (rounds : Nat) (tail : List Char) :
  readMembers member first gathered (rounds + 1)
      (comma first ++ (memberText (name, value) ++ tail))
    = (member gathered name (':' :: value ++ tail)).bind fun (gathered, rest) =>
        readMembers member false gathered rounds rest
  := by
  rw [memberText_append]
  generalize ':' :: value ++ tail = behind
  have hname := readTextBody_escape name behind
  cases first with
  | true =>
      rw [comma, if_pos rfl, List.nil_append, readMembers, skipSpace_cons (by decide)]
      cases hmember : member gathered name behind <;> simp [hname, hmember, Except.bind]
  | false =>
      have hspace := skipSpace_cons (c := '"') (by decide)
        (name.toList.flatMap escape ++ '"' :: behind)
      rw [comma, if_neg Bool.false_ne_true, List.singleton_append, readMembers,
        skipSpace_cons (by decide)]
      cases hmember : member gathered name behind <;> simp [hspace, hname, hmember, Except.bind]

/-- Reading goes through members that can be gathered. -/
theorem readMembers_separated (hgathers : Gathers member gathered members gathered')
    (htail : Stops tail) (rounds : Nat) :
  readMembers member first gathered (rounds + members.length)
      (separated first (members.map memberText ++ more) ++ tail)
    = readMembers member (first && members.isEmpty) gathered' rounds
        (separated (first && members.isEmpty) more ++ tail)
  := by
  induction hgathers generalizing first with
  | nil => simp
  | @cons _ _ _ name value members hfirst _ ih =>
      have hstops := stops_separated htail (members.map memberText ++ more)
      rw [List.map_cons, List.cons_append, separated, List.append_assoc, List.append_assoc,
        List.length_cons, ← Nat.add_assoc, readMembers_piece, hfirst hstops, List.isEmpty_cons,
        Bool.and_false]
      exact ih

/-- An object is read up to what follows the members that can be gathered, with a round left at
least. -/
theorem exists_readMembers (hgathers : Gathers member gathered members gathered')
    (more : List (List Char)) (htail : Stops tail)
    (hcs : cs = separated true (members.map memberText ++ more) ++ tail) :
  ∃ spare first, readMembers member true gathered (cs.length + 1) cs
    = readMembers member first gathered' (spare + 1) (separated first more ++ tail)
  := by
  have hrounds := length_lt_of_separated true
    (List.forall_mem_map.mpr fun m (_ : m ∈ members) => memberText_ne_nil m) more tail
  rw [List.length_map, ← hcs] at hrounds
  obtain ⟨spare, hspare⟩ : ∃ spare, cs.length + 1 = spare + 1 + members.length :=
    ⟨cs.length - members.length, by omega⟩
  use spare, true && members.isEmpty
  rw [hspare, hcs]
  exact readMembers_separated hgathers htail (spare + 1)

/-- An object is read if all its members are gathered. -/
theorem readMembers_eq_ok (hgathers : Gathers member gathered members gathered')
    (hcs : cs = separated true (members.map memberText) ++ '\x7d' :: rest) :
  readMembers member true gathered (cs.length + 1) cs = .ok (gathered', rest)
  := by
  have hclose : Stops ('\x7d' :: rest) := by
    apply stops_cons <;> decide
  rw [← List.append_nil (members.map _)] at hcs
  obtain ⟨spare, first, hread⟩ := exists_readMembers hgathers [] hclose hcs
  rw [hread, separated, List.nil_append, readMembers, skipSpace_cons (by decide)]
  rfl

/-- Reading an object stops at the first member that cannot be gathered. -/
theorem readMembers_eq_error (hgathers : Gathers member gathered members gathered')
    (hvalue : Meets (member gathered' name) (':' :: value) problem) (more : List (List Char))
    (rest : List Char)
    (hcs : cs = separated true (members.map memberText
      ++ memberText (name, value) :: more) ++ '\x7d' :: rest) :
  ∃ left, readMembers member true gathered (cs.length + 1) cs = .error ⟨problem, left⟩
  := by
  have hclose : Stops ('\x7d' :: rest) := by
    apply stops_cons <;> decide
  obtain ⟨spare, first, hread⟩ := exists_readMembers hgathers _ hclose hcs
  obtain ⟨left, hfault⟩ := hvalue (separated false more ++ '\x7d' :: rest)
  use left
  rw [hread, separated, List.append_assoc, List.append_assoc, readMembers_piece, hfault]
  rfl

end

end JoinBench.Json
