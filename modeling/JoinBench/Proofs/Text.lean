import JoinBench.Text.Blank
import JoinBench.Text.Lines
import JoinBench.Text.Search
import Mathlib.Data.List.TakeWhile
import Mathlib.Tactic.Common

/-!
# Lines, words, blanks and searching

Lines that have ended stay the same whatever comes behind them, and a line is a part of its text.
A pattern is found where it occurs first.  Trimming takes the blanks around a text and nothing
else.  Words come apart as they were put together, and have no blanks.
-/

namespace JoinBench.Text

variable {cs line pattern rest : List Char}

/-! ### Lines -/

theorem charLines_go_cons {c : Char} (hc : c ≠ '\n') (line rest : List Char) :
  charLines.go line (c :: rest) = charLines.go (c :: line) rest
  := if_neg hc

/-- A line feed ends a line, and takes a carriage return right in front of it along. -/
theorem exists_charLines_go_lineFeed (line : List Char) :
  ∃ kept, (line.reverse = kept ∨ line.reverse = kept ++ ['\r'])
    ∧ ∀ rest, charLines.go line ('\n' :: rest) = kept :: charLines rest
  := by
  by_cases hreturn : ∃ body, line = '\r' :: body
  · obtain ⟨body, rfl⟩ := hreturn
    exact ⟨body.reverse, .inr List.reverse_cons, fun _ => rfl⟩
  · use line.reverse, .inl rfl
    intro rest
    rw [charLines.go, if_pos rfl, charLines]
    exact fun body hbody => hreturn ⟨body, hbody⟩

theorem charLines_go_of_notMem (hfeed : '\n' ∉ cs) (line rest : List Char) :
  charLines.go line (cs ++ rest) = charLines.go (cs.reverse ++ line) rest
  := by
  induction cs generalizing line with
  | nil => rfl
  | cons c cs ih =>
      have hc : c ≠ '\n' := List.ne_of_not_mem_cons hfeed |>.symm
      rw [List.cons_append, charLines_go_cons hc, ih (List.not_mem_of_not_mem_cons hfeed),
        List.reverse_cons, List.append_assoc, List.singleton_append]

/-- A text without line feeds is one line. -/
theorem charLines_of_notMem (hfeed : '\n' ∉ cs) (hne : cs ≠ []) :
  charLines cs = [cs]
  := by
  have hgo := charLines_go_of_notMem hfeed [] []
  have hempty : cs.reverse.isEmpty = false := by
    simpa using hne
  rw [List.append_nil, List.append_nil] at hgo
  rw [charLines, hgo, charLines.go, hempty, List.reverse_reverse]
  rfl

/-- The first of several lines. -/
theorem exists_charLines_lineFeed (hfeed : '\n' ∉ line) (rest : List Char) :
  ∃ kept, (line = kept ∨ line = kept ++ ['\r'])
    ∧ charLines (line ++ '\n' :: rest) = kept :: charLines rest
  := by
  obtain ⟨kept, hkept, hgo⟩ := exists_charLines_go_lineFeed line.reverse
  rw [List.reverse_reverse] at hkept
  use kept, hkept
  rw [charLines, charLines_go_of_notMem hfeed, List.append_nil, hgo]

/-- The first line of a text that goes on, if at all, with a line feed. -/
theorem exists_charLines_eq_cons (hfeed : '\n' ∉ line) (hne : line ≠ [])
    (hrest : ∀ c ∈ rest.head?, c = '\n') :
  ∃ kept more, (line = kept ∨ line = kept ++ ['\r']) ∧ charLines (line ++ rest) = kept :: more
  := by
  cases rest with
  | nil =>
      rw [List.append_nil, charLines_of_notMem hfeed hne]
      exact ⟨line, [], .inl rfl, rfl⟩
  | cons c rest =>
      rw [hrest c rfl]
      obtain ⟨kept, hkept, hlines⟩ := exists_charLines_lineFeed hfeed rest
      exact ⟨kept, _, hkept, hlines⟩

theorem charLines_go_lineFeed (line front rest : List Char) :
  charLines.go line (front ++ '\n' :: rest)
    = charLines.go line (front ++ ['\n']) ++ charLines rest
  := by
  induction front generalizing line with
  | nil =>
      obtain ⟨kept, -, hgo⟩ := exists_charLines_go_lineFeed line
      rw [List.nil_append, List.nil_append, hgo, hgo]
      rfl
  | cons c front ih =>
      by_cases hc : c = '\n'
      · obtain ⟨kept, -, hgo⟩ := exists_charLines_go_lineFeed line
        rw [hc, List.cons_append, List.cons_append, hgo, hgo, charLines, ih, List.cons_append]
        rfl
      · rw [List.cons_append, List.cons_append, charLines_go_cons hc, charLines_go_cons hc, ih]

/-- Lines that have ended are lines whatever comes behind them. -/
theorem charLines_append (hended : ∀ c ∈ cs.getLast?, c = '\n') (rest : List Char) :
  charLines (cs ++ rest) = charLines cs ++ charLines rest
  := by
  obtain rfl | ⟨front, last, rfl⟩ := List.eq_nil_or_concat cs
  · rfl
  · rw [List.concat_eq_append, List.getLast?_concat] at hended
    rw [List.concat_eq_append, hended last rfl, List.append_assoc]
    exact charLines_go_lineFeed [] front rest

theorem isInfix_of_mem_charLines_go {found : List Char} (h : found ∈ charLines.go line cs) :
  found <:+: line.reverse ++ cs
  := by
  induction cs generalizing line with
  | nil =>
      rw [charLines.go] at h
      split at h
      · cases h
      · obtain rfl := List.mem_singleton.mp h
        exact (List.prefix_append line.reverse []).isInfix
  | cons c cs ih =>
      have hbehind : line.reverse ++ c :: cs = (c :: line).reverse ++ cs := by
        simp
      by_cases hc : c = '\n'
      · obtain ⟨kept, hkept, hgo⟩ := exists_charLines_go_lineFeed line
        rw [hc, hgo] at h
        obtain rfl | h := List.mem_cons.mp h
        · obtain hkept | hkept := hkept
          · exact ⟨[], c :: cs, by simp [hkept]⟩
          · exact ⟨[], '\r' :: c :: cs, by simp [hkept]⟩
        · rw [hbehind]
          exact (ih h).trans (List.suffix_append _ _).isInfix
      · rw [charLines_go_cons hc] at h
        rw [hbehind]
        exact ih h

/-- A line is a part of the text. -/
theorem isInfix_of_mem_charLines (h : line ∈ charLines cs) :
  line <:+: cs
  := isInfix_of_mem_charLines_go h

/-! ### Searching -/

theorem behind?_append (hne : pattern ≠ []) (rest : List Char) :
  behind? pattern (pattern ++ rest) = some rest
  := by
  obtain ⟨c, pattern, rfl⟩ := List.exists_cons_of_ne_nil hne
  have hstart : (c :: pattern).isPrefixOf (c :: (pattern ++ rest)) = true :=
    List.isPrefixOf_iff_prefix.mpr (List.prefix_append (c :: pattern) rest)
  rw [List.cons_append, behind?, if_pos hstart, ← List.cons_append, List.drop_left]

/-- Nothing is found just where the pattern does not occur. -/
theorem behind?_eq_none_iff (hne : pattern ≠ []) :
  behind? pattern cs = none ↔ ¬ pattern <:+: cs
  := by
  induction cs with
  | nil => simp [behind?, hne]
  | cons c cs ih =>
      rw [behind?, List.infix_cons_iff, not_or, ← ih, ← List.isPrefixOf_iff_prefix]
      split
      · simp_all
      · simp_all

/-- A pattern whose first character does not come again in it is found behind a text in which it
does not occur: no occurrence lies across the border. -/
theorem behind?_append_cons {first : Char} (hfirst : first ∉ pattern)
    (hcs : ¬ first :: pattern <:+: cs) (rest : List Char) :
  behind? (first :: pattern) (cs ++ (first :: pattern ++ rest)) = some rest
  := by
  induction cs with
  | nil => exact behind?_append (List.cons_ne_nil _ _) rest
  | cons c cs ih =>
      rw [List.infix_cons_iff, not_or] at hcs
      have hstart : (first :: pattern).isPrefixOf (c :: cs ++ (first :: pattern ++ rest))
          = false := by
        rw [Bool.eq_false_iff, Ne, List.isPrefixOf_iff_prefix]
        rintro ⟨behind, hsplit⟩
        obtain ⟨more, hmore, -⟩ | ⟨more, hmore, hbehind⟩ := List.append_eq_append_iff.mp hsplit
        · exact hcs.1 ⟨more, hmore.symm⟩
        · cases more with
          | nil => exact hcs.1 ⟨[], by simpa using hmore⟩
          | cons d more =>
              obtain ⟨rfl, -⟩ := List.cons.inj hbehind
              have hmem : first ∈ cs ++ first :: more := by simp
              exact hfirst ((List.cons.inj hmore).2 ▸ hmem)
      rw [List.cons_append, behind?, ← List.cons_append, hstart, if_neg Bool.false_ne_true]
      exact ih hcs.2

/-! ### Blanks at the ends -/

theorem dropWhile_isBlank (h : ∀ c ∈ cs.head?, isBlank c = false) :
  cs.dropWhile isBlank = cs
  := by
  cases cs with
  | nil => rfl
  | cons c rest => rw [List.dropWhile_cons_of_neg (by simp [h c rfl])]

theorem trimBlanks_eq_self (hhead : ∀ c ∈ cs.head?, isBlank c = false)
    (hlast : ∀ c ∈ cs.getLast?, isBlank c = false) :
  trimBlanks cs = cs
  := by
  rw [← List.head?_reverse] at hlast
  rw [trimBlanks, dropWhile_isBlank hhead, dropWhile_isBlank hlast, List.reverse_reverse]

theorem trimBlanks_append (hrest : ∀ c ∈ rest, isBlank c = true) (cs : List Char) :
  trimBlanks (cs ++ rest) = trimBlanks cs
  := by
  rw [trimBlanks, trimBlanks, List.dropWhile_append]
  split
  · next hblank =>
    rw [List.isEmpty_iff.mp hblank, List.dropWhile_eq_nil_iff.mpr hrest]
  · rw [List.reverse_append, List.dropWhile_append_of_pos (by simpa using hrest)]

/-- Blanks around a text are trimmed, and the text is left as it is. -/
theorem trimBlanks_between {opening closing : List Char}
    (hopening : ∀ c ∈ opening, isBlank c = true)
    (hhead : ∀ c ∈ cs.head?, isBlank c = false) (hlast : ∀ c ∈ cs.getLast?, isBlank c = false)
    (hclosing : ∀ c ∈ closing, isBlank c = true) :
  trimBlanks (opening ++ (cs ++ closing)) = cs
  := by
  rw [← List.append_assoc, trimBlanks_append hclosing, trimBlanks,
    List.dropWhile_append_of_pos hopening, ← trimBlanks, trimBlanks_eq_self hhead hlast]

theorem isBlank_of_mem_toDigits {n : Nat} {c : Char} (hc : c ∈ Nat.toDigits 10 n) :
  isBlank c = false
  := by
  have hdigit := Nat.isDigit_of_mem_toDigits (by decide) (by decide) hc
  have hlow : 48 ≤ c.toNat := (Char.isDigit_iff_toNat.mp hdigit).1
  have hhigh : c.toNat ≤ 57 := (Char.isDigit_iff_toNat.mp hdigit).2
  simp [isBlank]
  omega

/-! ### Words -/

section Words

variable {word token : List Char} {tokens : List (List Char)}

theorem words_go_append (h : ∀ c ∈ token, isBlank c = false) (word rest : List Char) :
  words.go word (token ++ rest) = words.go (token.reverse ++ word) rest
  := by
  induction token generalizing word with
  | nil => rfl
  | cons c token ih =>
      obtain ⟨hc, htoken⟩ := List.forall_mem_cons.mp h
      rw [List.cons_append, words.go, hc, if_neg Bool.false_ne_true, ih htoken (c :: word),
        List.reverse_cons, List.append_assoc, List.singleton_append]

/-- Words that are put together with a blank between each two come apart again. -/
theorem words_intercalate {blank : Char} (hblank : isBlank blank = true)
    (h : ∀ token ∈ tokens, token ≠ [] ∧ ∀ c ∈ token, isBlank c = false) :
  words ([blank].intercalate tokens) = tokens
  := by
  induction tokens with
  | nil => rfl
  | cons token tokens ih =>
      obtain ⟨⟨hne, htoken⟩, htokens⟩ := List.forall_mem_cons.mp h
      have hempty : token.reverse.isEmpty = false := by simpa using hne
      have hgo := words_go_append htoken []
      rw [List.append_nil] at hgo
      cases tokens with
      | nil =>
          have hword := hgo []
          rw [List.append_nil] at hword
          rw [List.intercalate_singleton, words, hword, words.go, hempty, List.reverse_reverse]
          rfl
      | cons next tokens =>
          rw [List.intercalate_cons_cons, List.append_assoc, words, hgo, List.singleton_append,
            words.go, hblank, hempty, List.reverse_reverse]
          simp only [Bool.false_eq_true, if_true, if_false]
          exact congrArg (token :: ·) (ih htokens)

theorem isBlank_of_mem_words_go (hword : ∀ c ∈ word, isBlank c = false)
    (htoken : token ∈ words.go word cs) :
  ∀ c ∈ token, isBlank c = false
  := by
  induction cs generalizing word with
  | nil =>
      rw [words.go] at htoken
      split at htoken
      · cases htoken
      · rw [List.mem_singleton.mp htoken]
        simpa using hword
  | cons c cs ih =>
      rw [words.go] at htoken
      split_ifs at htoken with hc hempty
      · exact ih (List.forall_mem_nil _) htoken
      · obtain rfl | htoken := List.mem_cons.mp htoken
        · simpa using hword
        · exact ih (List.forall_mem_nil _) htoken
      · exact ih (List.forall_mem_cons.mpr ⟨by simpa using hc, hword⟩) htoken

/-- No word has a blank. -/
theorem isBlank_of_mem_words (h : token ∈ words cs) :
  ∀ c ∈ token, isBlank c = false
  := isBlank_of_mem_words_go (List.forall_mem_nil _) h

end Words

end JoinBench.Text
