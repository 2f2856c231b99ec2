import JoinBench.UnitFlags
import Mathlib.Data.List.TakeWhile
import Mathlib.Tactic.Common
import Std.Data.String.ToNat

/-!
# Addresses of the helper

The text of an address comes apart at its last colon, since a port has none.  An address is read
from exactly the texts that write it: a host that is not empty and has no blanks, and a numeral of a
port of 16 bits.  Different addresses have different texts, and an address whose text can be read is
what is read; that is so for every address that was read from some text.
-/

namespace JoinBench

namespace Text

variable {cs digits : List Char} {bound n acc : Nat}

/-- The characters of a number: ASCII digits of that decimal value, at least one, and possibly a
plus sign in front of them. -/
def IsNumeral (cs : List Char) (n : Nat) : Prop :=
  ∃ digits : List Char, digits ≠ [] ∧ (∀ c ∈ digits, c.isDigit = true)
    ∧ Nat.ofDigitChars 10 digits 0 = n ∧ (cs = digits ∨ cs = '+' :: digits)

theorem digitsValue?_eq_some_iff :
  digitsValue? acc digits = some n
    ↔ (∀ c ∈ digits, c.isDigit = true) ∧ Nat.ofDigitChars 10 digits acc = n
  := by
  induction digits generalizing acc with
  | nil => simp [digitsValue?]
  | cons c rest ih =>
      rw [digitsValue?, List.forall_mem_cons]
      split
      · next hc =>
        rw [ih, Nat.ofDigitChars_cons]
        simp [hc]
      · next hc => simp [hc]

/-- Behind a plus sign only the digits are looked at. -/
theorem readNat?_plus_eq_some_iff :
  readNat? bound ('+' :: digits) = some n
    ↔ digits ≠ [] ∧ (∀ c ∈ digits, c.isDigit = true) ∧ Nat.ofDigitChars 10 digits 0 = n ∧ n < bound
  := by
  cases digits with
  | nil => simp [readNat?]
  | cons c rest => simp [readNat?, Option.filter_eq_some_iff, digitsValue?_eq_some_iff, and_assoc]

theorem readNat?_eq_readNat?_plus (hplus : ∀ rest, cs ≠ '+' :: rest) :
  readNat? bound cs = readNat? bound ('+' :: cs)
  := by
  unfold readNat?
  split
  · next rest => exact absurd rfl (hplus rest)
  · rfl

/-- Exactly the numerals of numbers below the bound are read. -/
theorem readNat?_eq_some_iff :
  readNat? bound cs = some n ↔ IsNumeral cs n ∧ n < bound
  := by
  by_cases hplus : ∃ digits, cs = '+' :: digits
  · obtain ⟨digits, rfl⟩ := hplus
    rw [readNat?_plus_eq_some_iff]
    constructor
    · rintro ⟨hne, hdigits, hvalue, hbound⟩
      exact ⟨⟨digits, hne, hdigits, hvalue, .inr rfl⟩, hbound⟩
    · rintro ⟨⟨_, hne, hdigits, hvalue, rfl | hcs⟩, hbound⟩
      · exact absurd (hdigits '+' List.mem_cons_self) (by decide)
      · cases hcs
        exact ⟨hne, hdigits, hvalue, hbound⟩
  · rw [readNat?_eq_readNat?_plus (not_exists.mp hplus), readNat?_plus_eq_some_iff]
    constructor
    · rintro ⟨hne, hdigits, hvalue, hbound⟩
      exact ⟨⟨cs, hne, hdigits, hvalue, .inl rfl⟩, hbound⟩
    · rintro ⟨⟨digits, hne, hdigits, hvalue, rfl | hcs⟩, hbound⟩
      · exact ⟨hne, hdigits, hvalue, hbound⟩
      · exact absurd ⟨digits, hcs⟩ hplus

theorem isNumeral_repr (n : Nat) :
  IsNumeral n.repr.toList n
  := by
  rw [Nat.toList_repr]
  exact ⟨_, Nat.toDigits_ne_nil, fun c => Nat.isDigit_of_mem_toDigits (by decide) (by decide),
    Nat.ofDigitChars_toDigits (by decide) (by decide), .inl rfl⟩

/-- A numeral has no character but digits and the plus sign. -/
theorem IsNumeral.notMem {c : Char} (h : IsNumeral cs n) (hdigit : c.isDigit = false)
    (hplus : c ≠ '+') :
  c ∉ cs
  := by
  obtain ⟨digits, -, hdigits, -, hcs⟩ := h
  have hnot : c ∉ digits := by
    intro hc
    rw [hdigits c hc] at hdigit
    cases hdigit
  obtain rfl | rfl := hcs
  · exact hnot
  · exact List.not_mem_cons_of_ne_of_not_mem hplus hnot

theorem IsNumeral.unique {m : Nat} (hm : IsNumeral cs m) (hn : IsNumeral cs n) :
  m = n
  := by
  have hread : readNat? (m + n + 1) cs = some m := readNat?_eq_some_iff.mpr ⟨hm, by omega⟩
  rw [readNat?_eq_some_iff.mpr ⟨hn, by omega⟩] at hread
  exact (Option.some.inj hread).symm

end Text

namespace HelperAddress

variable {host behind : List Char} {address : HelperAddress} {text : String}

/-- A text is split at the last of its colons. -/
theorem splitAtLastColon?_append (h : ':' ∉ behind) (host : List Char) :
  splitAtLastColon? (host ++ ':' :: behind) = some (host, behind)
  := by
  have hreverse : (host ++ ':' :: behind).reverse = behind.reverse ++ ':' :: host.reverse := by
    simp
  have hbehind : (behind.reverse ++ ':' :: host.reverse).takeWhile (· ≠ ':') = behind.reverse := by
    rw [List.takeWhile_append_of_pos, List.takeWhile_cons_of_neg, List.append_nil]
    · decide
    · intro c hc
      simpa using ne_of_mem_of_not_mem (List.mem_reverse.mp hc) h
  simp only [splitAtLastColon?, hreverse, hbehind, List.drop_left, List.reverse_reverse]

theorem splitAtLastColon?_of_notMem {cs : List Char} (h : ':' ∉ cs) :
  splitAtLastColon? cs = none
  := by
  have hall : cs.reverse.takeWhile (· ≠ ':') = cs.reverse := by
    rw [List.takeWhile_eq_self_iff]
    intro c hc
    simpa using ne_of_mem_of_not_mem (List.mem_reverse.mp hc) h
  simp only [splitAtLastColon?, hall, List.drop_length]

theorem splitAtLastColon?_eq_some_iff {cs : List Char} :
  splitAtLastColon? cs = some (host, behind) ↔ cs = host ++ ':' :: behind ∧ ':' ∉ behind
  := by
  constructor
  · intro h
    have hcolon : ':' ∈ cs.reverse := by
      by_contra hnot
      rw [List.mem_reverse] at hnot
      rw [splitAtLastColon?_of_notMem hnot] at h
      cases h
    obtain ⟨last, first, hcs, hlast⟩ := List.eq_append_cons_of_mem hcolon
    have hsplit : cs = first.reverse ++ ':' :: last.reverse := by
      rw [← List.reverse_reverse cs, hcs]
      simp
    have hlast' : ':' ∉ last.reverse := by simpa using hlast
    rw [hsplit, splitAtLastColon?_append hlast'] at h
    cases h
    exact ⟨hsplit, hlast'⟩
  · rintro ⟨rfl, hbehind⟩
    exact splitAtLastColon?_append hbehind host

/-- How an address may be written: its host, a colon, and a numeral of its port, in which there is
no colon.  The host is not empty and has no blanks, and the port has 16 bits. -/
structure IsWritten (text : String) (address : HelperAddress) : Prop where
  exists_port : ∃ port, text.toList = address.host.toList ++ ':' :: port ∧ ':' ∉ port
    ∧ Text.IsNumeral port address.port
  port_le : address.port ≤ 65535
  host_ne_empty : address.host ≠ ""
  isBlank_host : ∀ c ∈ address.host.toList, Text.isBlank c = false

/-- Exactly what an address may be written as is read as that address. -/
theorem parse_eq_ok_iff :
  parse text = .ok address ↔ address.IsWritten text
  := by
  constructor
  · intro h
    rw [parse] at h
    split at h
    · cases h
    · next host behind hsplit =>
      obtain ⟨htext, hcolon⟩ := splitAtLastColon?_eq_some_iff.mp hsplit
      split at h
      · cases h
      · next port hread =>
        obtain ⟨hport, hbound⟩ := Text.readNat?_eq_some_iff.mp hread
        split_ifs at h with hhost
        cases h
        rw [Bool.or_eq_true, not_or] at hhost
        constructor
        · exact ⟨behind, by rw [htext, String.toList_ofList], hcolon, hport⟩
        · exact Nat.le_of_lt_succ hbound
        · intro hempty
          apply hhost.1
          simpa [String.ext_iff] using hempty
        · rw [String.toList_ofList]
          simpa using hhost.2
  · rintro ⟨⟨behind, htext, hcolon, hport⟩, hbound, hempty, hblank⟩
    have hread : Text.readNat? Text.bound16 behind = some address.port :=
      Text.readNat?_eq_some_iff.mpr ⟨hport, Nat.lt_succ_of_le hbound⟩
    have hhost : (address.host.toList.isEmpty || address.host.toList.any Text.isBlank) = false := by
      rw [Bool.or_eq_false_iff, List.isEmpty_eq_false_iff, List.any_eq_false]
      refine ⟨fun hnil => hempty (String.toList_eq_nil_iff.mp hnil), ?_⟩
      simpa using hblank
    rw [parse, splitAtLastColon?_eq_some_iff.mpr ⟨htext, hcolon⟩]
    simp only [hread, hhost, Bool.false_eq_true, if_false, String.ofList_toList]

/-! ### Displayed addresses -/

/-- The text of an address is split into its host and its port. -/
theorem splitAtLastColon?_display (address : HelperAddress) :
  splitAtLastColon? address.display.toList = some (address.host.toList, address.port.repr.toList)
  := by
  have hcolon : ':' ∉ address.port.repr.toList :=
    (Text.isNumeral_repr address.port).notMem (by decide) (by decide)
  have htext : address.display.toList = address.host.toList ++ ':' :: address.port.repr.toList := by
    simp [display]
  rw [htext, splitAtLastColon?_append hcolon]

/-- Different addresses have different texts. -/
theorem display_injective :
  Function.Injective display
  := by
  rintro ⟨host, port⟩ ⟨host', port'⟩ h
  have hsplit := splitAtLastColon?_display ⟨host, port⟩
  rw [h, splitAtLastColon?_display, Option.some_inj, Prod.mk.injEq, String.toList_inj,
    String.toList_inj] at hsplit
  obtain ⟨rfl, hport⟩ := hsplit
  obtain rfl := Nat.repr_injective hport
  rfl

/-- An address whose text can be read is what is read. -/
theorem eq_of_parse_display {address address' : HelperAddress}
    (h : parse address.display = .ok address') :
  address' = address
  := by
  obtain ⟨⟨port, htext, hcolon, hport⟩, -, -, -⟩ := parse_eq_ok_iff.mp h
  have hsplit := splitAtLastColon?_display address
  rw [splitAtLastColon?_eq_some_iff.mpr ⟨htext, hcolon⟩, Option.some_inj, Prod.mk.injEq,
    String.toList_inj] at hsplit
  obtain ⟨host, number⟩ := address'
  obtain ⟨rfl, rfl⟩ := hsplit
  obtain rfl := hport.unique (Text.isNumeral_repr _)
  rfl

/-- An address can only be read with a host that is not empty and has no blanks. -/
theorem host_of_parse (h : parse text = .ok address) :
  address.host ≠ "" ∧ ∀ c ∈ address.host.toList, Text.isBlank c = false
  := by
  obtain ⟨-, -, hhost, hblank⟩ := parse_eq_ok_iff.mp h
  exact ⟨hhost, hblank⟩

theorem isWritten_display (hhost : address.host ≠ "")
    (hblank : ∀ c ∈ address.host.toList, Text.isBlank c = false) (hport : address.port ≤ 65535) :
  address.IsWritten address.display
  := by
  have hnumeral := Text.isNumeral_repr address.port
  refine ⟨⟨address.port.repr.toList, ?_, hnumeral.notMem (by decide) (by decide), hnumeral⟩, hport,
    hhost, hblank⟩
  simp [display]

/-- Exactly the texts of a host without blanks, a colon and a port are read as an address, and an
address is read back from its text. -/
theorem parse_iff_and_parse_display :
  (∀ text address, parse text = .ok address ↔ address.IsWritten text)
    ∧ (∀ text address, parse text = .ok address → parse address.display = .ok address)
    ∧ ∀ address : HelperAddress, address.host ≠ "" →
      (∀ c ∈ address.host.toList, Text.isBlank c = false) → address.port ≤ 65535 →
        parse address.display = .ok address
  := by
  refine ⟨fun _ _ => parse_eq_ok_iff, ?_, ?_⟩
  · intro text address h
    obtain ⟨-, hport, hhost, hblank⟩ := parse_eq_ok_iff.mp h
    exact parse_eq_ok_iff.mpr (isWritten_display hhost hblank hport)
  · intro address hhost hblank hport
    exact parse_eq_ok_iff.mpr (isWritten_display hhost hblank hport)

/-- A host with colons, behind it a port with a plus sign and a leading zero. -/
theorem parse_iff_and_parse_display_colons :
  parse "fd00::2:+0443" = .ok ⟨"fd00::2", 443⟩
    ∧ parse (HelperAddress.mk "fd00::2" 443).display = .ok ⟨"fd00::2", 443⟩
    ∧ parse (HelperAddress.mk ":" 65535).display = .ok ⟨":", 65535⟩
  := by
  obtain ⟨hiff, hagain, hdisplay⟩ := parse_iff_and_parse_display
  have hnumeral : Text.IsNumeral ['+', '0', '4', '4', '3'] 443 :=
    ⟨['0', '4', '4', '3'], by decide, List.all_eq_true.mp rfl, by decide, .inr rfl⟩
  have hread : parse "fd00::2:+0443" = .ok ⟨"fd00::2", 443⟩ :=
    (hiff _ _).mpr ⟨⟨_, rfl, by decide, hnumeral⟩, by decide, by decide, by simp [Text.isBlank]⟩
  exact ⟨hread, hagain _ _ hread,
    hdisplay ⟨":", 65535⟩ (by decide) (by simp [Text.isBlank]) (by decide)⟩

end HelperAddress

end JoinBench
