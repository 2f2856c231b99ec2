import JoinBench.Json.Reader
import Mathlib.Tactic.Common

/-!
# Reading strings that were written

Every character of a string is written as itself or as an escape, and read back from it.
-/

namespace JoinBench.Json

/-- The four digits of a character below the space. -/
theorem fourHex_control :
  ∀ n < 0x20, ∃ d e, fourHex n = ['0', '0', d, e] ∧ hexValue4? '0' '0' d e = some n
    ∧ ' ' ≤ d ∧ ' ' ≤ e
  := by
  intro n hn
  have hdigits : ∀ n < 0x20,
      fourHex n = ['0', '0', Nat.digitChar (n / 16), Nat.digitChar (n % 16)]
        ∧ hexValue4? '0' '0' (Nat.digitChar (n / 16)) (Nat.digitChar (n % 16)) = some n
        ∧ ' ' ≤ Nat.digitChar (n / 16) ∧ ' ' ≤ Nat.digitChar (n % 16) := by
    decide
  exact ⟨_, _, hdigits n hn⟩

theorem readUnicode_fourHex {c : Char} (hc : c.toNat < 0x20) (rest : List Char) :
  readUnicode (fourHex c.toNat ++ rest) = .ok (c, rest)
  := by
  obtain ⟨d, e, hhex, hvalue, -⟩ := fourHex_control c.toNat hc
  have hread : readHex (fourHex c.toNat ++ rest) = .ok (c.toNat, rest) := by
    simp only [hhex, List.cons_append, List.nil_append, readHex, hvalue]
  have hlow : isLowSurrogate c.toNat = false := by
    grind [isLowSurrogate]
  have hhigh : isHighSurrogate c.toNat = false := by
    grind [isHighSurrogate]
  rw [readUnicode, hread]
  simp [bind, Except.bind, hlow, hhigh]

/-- A character is read back from what is written for it. -/
theorem readChars_escape (read : List Char) (rounds : Nat) (c : Char) (rest : List Char) :
  readChars read (rounds + 1) (escape c ++ rest) = readChars (c :: read) rounds rest
  := by
  unfold escape
  split
  -- the escapes of one letter
  iterate 7 rfl
  next hquote hslash _ _ _ _ _ =>
    split
    · next hcontrol =>
      have hread : readEscape ('u' :: (fourHex c.toNat ++ rest)) = .ok (c, rest) :=
        readUnicode_fourHex hcontrol rest
      simp [readChars, hread]
    · next hcontrol =>
      rw [List.singleton_append, readChars, if_neg hquote, if_neg hslash, if_neg hcontrol]

theorem readChars_flatMap_escape (read cs : List Char) {rounds : Nat} (hrounds : cs.length < rounds)
    (rest : List Char) :
  readChars read rounds (cs.flatMap escape ++ '"' :: rest) = .ok (read.reverse ++ cs, rest)
  := by
  induction cs generalizing read rounds with
  | nil =>
      obtain ⟨rounds, rfl⟩ := Nat.exists_eq_add_one_of_ne_zero (Nat.ne_zero_of_lt hrounds)
      simp [readChars]
  | cons c cs ih =>
      obtain ⟨rounds, rfl⟩ := Nat.exists_eq_add_one_of_ne_zero (Nat.ne_zero_of_lt hrounds)
      rw [List.flatMap_cons, List.append_assoc, readChars_escape,
        ih (c :: read) (Nat.lt_of_succ_lt_succ hrounds), List.reverse_cons, List.append_assoc,
        List.singleton_append]

theorem escape_ne_nil (c : Char) :
  escape c ≠ []
  := by
  unfold escape
  split <;> try split
  all_goals exact List.cons_ne_nil _ _

theorem length_le_length_flatMap_escape (cs : List Char) :
  cs.length ≤ (cs.flatMap escape).length
  := by
  induction cs with
  | nil => exact Nat.le_refl _
  | cons c cs ih =>
      have hpos := List.length_pos_iff.mpr (escape_ne_nil c)
      simp only [List.flatMap_cons, List.length_append, List.length_cons]
      omega

/-- A string is read back from its text behind the opening quote. -/
theorem readTextBody_escape (s : String) (rest : List Char) :
  readTextBody (s.toList.flatMap escape ++ '"' :: rest) = .ok (s, rest)
  := by
  have hrounds := length_le_length_flatMap_escape s.toList
  rw [readTextBody, readChars_flatMap_escape [] s.toList]
  · simp [Except.map]
  · simp only [List.length_append, List.length_cons]
    omega

end JoinBench.Json
