import JoinBench.Json.Decode
import Mathlib.Tactic.Common

/-!
# Reading integers that were written

The digits of an integer are read back as that integer, provided that no character of a number
follows them.  Every integer that is read lies in the range of the signed or of the unsigned
64-bit integers.
-/

namespace JoinBench.Json

open Decimal (Double)

variable {negative : Bool} {n significand added : Nat} {i exponent : Int} {c : Char}
  {digits cs rest : List Char}

/-- What may follow a value that is read: nothing that a number could go on with. -/
def Stops (rest : List Char) : Prop :=
  ∀ c ∈ rest.head?, c.isDigit = false ∧ c ≠ '.' ∧ c ≠ 'e' ∧ c ≠ 'E'

theorem stops_cons (hdigit : c.isDigit = false) (hpoint : c ≠ '.') (hlower : c ≠ 'e')
    (hupper : c ≠ 'E') :
  Stops (c :: rest)
  := by
  intro d hd
  cases hd
  exact ⟨hdigit, hpoint, hlower, hupper⟩

/-! ### Digits -/

theorem le_ofDigitChars (digits : List Char) (n : Nat) :
  n ≤ Nat.ofDigitChars 10 digits n
  := by
  induction digits generalizing n with
  | nil => exact Nat.le_refl n
  | cons c digits ih =>
      rw [Nat.ofDigitChars_cons]
      apply Nat.le_trans _ (ih _)
      omega

/-- Digits are added up to the first character that is none, if their value has room. -/
theorem addDigits_append (added : Nat) (hdigits : ∀ c ∈ digits, c.isDigit = true)
    (hroom : Nat.ofDigitChars 10 digits significand < 18446744073709551616) (hrest : Stops rest) :
  addDigits significand added (digits ++ rest)
    = (Nat.ofDigitChars 10 digits significand, added + digits.length, false, rest)
  := by
  induction digits generalizing significand added with
  | nil =>
      cases rest with
      | nil => rfl
      | cons c rest =>
          have hc := (hrest c rfl).1
          simp [addDigits, hc]
  | cons c digits ih =>
      rw [Nat.ofDigitChars_cons] at hroom ⊢
      have hnext : 10 * significand + digitValue c < 18446744073709551616 :=
        Nat.lt_of_le_of_lt (le_ofDigitChars digits _) hroom
      rw [List.cons_append, addDigits, if_pos (hdigits c List.mem_cons_self)]
      simp only
      rw [if_pos hnext, List.length_cons, ← Nat.add_assoc, Nat.add_right_comm]
      apply ih (added + 1) _ hroom
      intro d hd
      exact hdigits d (List.mem_cons_of_mem c hd)

theorem isDigit_of_mem_toDigits (hc : c ∈ Nat.toDigits 10 n) :
  c.isDigit = true
  := Nat.isDigit_of_mem_toDigits (by decide) (by decide) hc

/-- A number other than zero is written without leading zeros. -/
theorem toDigits_eq_cons (hn : n ≠ 0) :
  ∃ c digits, Nat.toDigits 10 n = c :: digits ∧ c ≠ '0'
  := by
  induction n using Nat.strongRecOn with
  | _ n ih =>
      obtain hlt | hle := Nat.lt_or_ge n 10
      · rw [Nat.toDigits_of_lt_base hlt]
        have hdigit : ∀ n < 10, n ≠ 0 → n.digitChar ≠ '0' := by
          decide
        exact ⟨_, _, rfl, hdigit n hlt hn⟩
      · obtain ⟨c, digits, hdigits, hc⟩ := ih (n / 10) (by omega) (by omega)
        rw [Nat.toDigits_of_base_le (by decide) hle, hdigits]
        exact ⟨c, _, rfl, hc⟩

theorem readDigits_zero (hrest : Stops rest) :
  readDigits negative ('0' :: rest) = readBehindInteger negative 0 rest
  := by
  cases rest with
  | nil => rfl
  | cons c rest =>
      have hc := (hrest c rfl).1
      simp [readDigits, hc]

/-- Digits are read as their number, if it has room and no zero leads. -/
theorem readDigits_cons (hc : c.isDigit = true) (hzero : c ≠ '0')
    (hdigits : ∀ d ∈ digits, d.isDigit = true)
    (hroom : Nat.ofDigitChars 10 digits (digitValue c) < 18446744073709551616)
    (hrest : Stops rest) :
  readDigits negative (c :: (digits ++ rest))
    = readBehindInteger negative (Nat.ofDigitChars 10 digits (digitValue c)) rest
  := by
  unfold readDigits
  split
  · next heq => cases heq
  · next heq =>
    cases heq
    exact absurd rfl hzero
  · next heq =>
    cases heq
    rw [if_pos hc, addDigits_append 0 hdigits hroom hrest]

/-- Written digits are read as their number. -/
theorem readDigits_toDigits (hn : n < 18446744073709551616) (hrest : Stops rest) :
  readDigits negative (Nat.toDigits 10 n ++ rest) = readBehindInteger negative n rest
  := by
  by_cases hzero : n = 0
  · subst hzero
    exact readDigits_zero hrest
  · obtain ⟨c, digits, hdigits, hc⟩ := toDigits_eq_cons hzero
    have hall : ∀ d ∈ c :: digits, d.isDigit = true := by
      intro d hd
      rw [← hdigits] at hd
      exact isDigit_of_mem_toDigits hd
    have hvalue : Nat.ofDigitChars 10 digits (digitValue c) = n := by
      have hcons : Nat.ofDigitChars 10 (c :: digits) 0 = n := by
        rw [← hdigits]
        exact Nat.ofDigitChars_toDigits (by decide) (by decide)
      rw [Nat.ofDigitChars_cons, Nat.mul_zero, Nat.zero_add] at hcons
      exact hcons
    obtain ⟨hfirst, hmore⟩ := List.forall_mem_cons.mp hall
    rw [← hvalue] at hn
    rw [hdigits, List.cons_append, readDigits_cons hfirst hc hmore hn hrest, hvalue]

/-! ### Integers -/

/-- The integers that are read as such: the signed and the unsigned ones of 64 bits. -/
def Fits (i : Int) : Prop :=
  -9223372036854775808 ≤ i ∧ i < 18446744073709551616

theorem readBehindInteger_of_stops (hrest : Stops rest) :
  readBehindInteger negative n rest =
    if !negative then .ok (.int n, rest)
    else if 0 < n ∧ n ≤ 9223372036854775808 then .ok (.int (-n), rest)
    else .ok (.double ⟨true, Decimal.Double.nearest n 1⟩, rest)
  := by
  unfold readBehindInteger
  split
  · exact absurd rfl (hrest _ rfl).2.1
  · exact absurd rfl (hrest _ rfl).2.2.1
  · exact absurd rfl (hrest _ rfl).2.2.2
  · rfl

theorem readDigits_natAbs_of_nonneg (hi : Fits i) (hnonneg : 0 ≤ i) (hrest : Stops rest) :
  readDigits false (Nat.toDigits 10 i.natAbs ++ rest) = .ok (.int i, rest)
  := by
  have hroom : i.natAbs < 18446744073709551616 := by
    have := hi.2
    omega
  rw [readDigits_toDigits hroom hrest, readBehindInteger_of_stops hrest, if_pos (by decide),
    Int.natAbs_of_nonneg hnonneg]

theorem readDigits_natAbs_of_neg (hi : Fits i) (hneg : i < 0) (hrest : Stops rest) :
  readDigits true (Nat.toDigits 10 i.natAbs ++ rest) = .ok (.int i, rest)
  := by
  have hlow := hi.1
  have hroom : i.natAbs < 18446744073709551616 := by
    omega
  have hrange : 0 < i.natAbs ∧ i.natAbs ≤ 9223372036854775808 := by
    omega
  have habs : -(i.natAbs : Int) = i := by
    omega
  rw [readDigits_toDigits hroom hrest, readBehindInteger_of_stops hrest, if_neg (by decide),
    if_pos hrange, habs]

theorem isSpace_of_isDigit (hc : c.isDigit = true) :
  isSpace c = false
  := by
  by_contra hspace
  simp only [Bool.not_eq_false, isSpace, Bool.or_eq_true, decide_eq_true_eq] at hspace
  rcases hspace with ((rfl | rfl) | rfl) | rfl <;> cases hc

theorem skipSpace_cons (hc : isSpace c = false) (cs : List Char) :
  skipSpace (c :: cs) = c :: cs
  := by
  rw [skipSpace, List.dropWhile_cons_of_neg]
  simp [hc]

/-- The first digit of a number. -/
theorem exists_toDigits (n : Nat) :
  ∃ c digits, Nat.toDigits 10 n = c :: digits ∧ c.isDigit = true
  := by
  obtain ⟨c, digits, hdigits⟩ := List.exists_cons_of_ne_nil (Nat.toDigits_ne_nil (n := n) (b := 10))
  refine ⟨c, digits, hdigits, isDigit_of_mem_toDigits (n := n) ?_⟩
  rw [hdigits]
  exact List.mem_cons_self

/-- An integer is read back as an integer of any range that it lies in. -/
theorem readInteger_renderInt (wanted : String) {low bound : Int} (room : Nat) (hi : Fits i)
    (hlow : low ≤ i) (hbound : i < bound) (hrest : Stops rest) :
  readInteger wanted low bound room (renderInt i ++ rest) = .ok (i, rest)
  := by
  rw [renderInt]
  split
  · next hneg =>
    rw [List.cons_append, readInteger, skipSpace_cons (by decide)]
    simp only [readDigits_natAbs_of_neg hi hneg hrest, if_pos (And.intro hlow hbound)]
  · next hnonneg =>
    have hread := readDigits_natAbs_of_nonneg hi (Int.not_lt.mp hnonneg) hrest
    obtain ⟨c, digits, hdigits, hc⟩ := exists_toDigits i.natAbs
    rw [hdigits, List.cons_append] at hread ⊢
    rw [readInteger, skipSpace_cons (isSpace_of_isDigit hc)]
    split
    · next heq => cases heq
    · next heq =>
      cases heq
      cases hc
    · next heq =>
      cases heq
      simp only [if_pos hc, hread, if_pos (And.intro hlow hbound)]

/-! ### The range of what is read -/

theorem doubleOf_ne_int :
  doubleOf negative significand exponent cs ≠ .ok (.int i, rest)
  := by
  unfold doubleOf
  split <;> simp

theorem readExponent_ne_int :
  readExponent negative significand exponent cs ≠ .ok (.int i, rest)
  := by
  unfold readExponent
  grind [doubleOf_ne_int]

theorem readScaled_ne_int :
  readScaled negative significand exponent cs ≠ .ok (.int i, rest)
  := by
  unfold readScaled
  split
  · exact readExponent_ne_int
  · exact readExponent_ne_int
  · exact doubleOf_ne_int

theorem readFraction_ne_int :
  readFraction negative significand exponent cs ≠ .ok (.int i, rest)
  := by
  unfold readFraction
  split
  · exact readScaled_ne_int
  · simp
  · simp
  · exact readScaled_ne_int

theorem addDigits_lt (added : Nat) (cs : List Char) (hroom : significand < 18446744073709551616) :
  (addDigits significand added cs).1 < 18446744073709551616
  := by
  induction cs generalizing significand added with
  | nil => exact hroom
  | cons c cs ih =>
      rw [addDigits]
      split
      · simp only
        split
        · next hnext => exact ih (added + 1) hnext
        · exact hroom
      · exact hroom

theorem digitValue_lt (c : Char) :
  digitValue c < 18446744073709551616
  := by
  have hchar : c.toNat < 2 ^ 32 := c.val.toNat_lt
  rw [digitValue]
  omega

theorem fits_of_readBehindInteger (hroom : significand < 18446744073709551616)
    (hread : readBehindInteger negative significand cs = .ok (.int i, rest)) :
  Fits i
  := by
  unfold readBehindInteger at hread
  split at hread
  · exact absurd hread readFraction_ne_int
  · exact absurd hread readExponent_ne_int
  · exact absurd hread readExponent_ne_int
  · split at hread
    · cases hread
      constructor <;> omega
    · split at hread
      · next hrange =>
        cases hread
        constructor <;> omega
      · cases hread

theorem fits_of_readDigits (hread : readDigits negative cs = .ok (.int i, rest)) :
  Fits i
  := by
  unfold readDigits at hread
  split at hread
  · cases hread
  · split at hread
    · split at hread
      · cases hread
      · exact fits_of_readBehindInteger (by decide) hread
    · exact fits_of_readBehindInteger (by decide) hread
  · split at hread
    · next c digits _ hc =>
      have hadd := addDigits_lt 0 digits (digitValue_lt c)
      split at hread
      · next heq =>
        rw [heq] at hadd
        exact fits_of_readBehindInteger hadd hread
      · unfold readBehindLong at hread
        simp only at hread
        split at hread
        · exact absurd hread readFraction_ne_int
        · exact absurd hread readScaled_ne_int
    · cases hread

end JoinBench.Json
