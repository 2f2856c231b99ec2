import JoinBench.Proofs.Json.Document

/-!
# Reading numbers and strings as they are spelt

Whether a number is read as an integer, and what a string is read as, depends on nothing but their
spelling: the same comes out of it whatever follows.
-/

namespace JoinBench.Json

variable {negative : Bool} {significand added n : Nat} {i : Int} {c : Char}
  {cs rest digits : List Char}

/-! ### Outcomes -/

section

variable {ε α β : Type}

theorem toOption_bind (outcome : Except ε α) (f : α → Except ε β) :
  (outcome.bind f).toOption = outcome.toOption.bind fun x => (f x).toOption
  := by
  cases outcome <;> rfl

theorem toOption_map (outcome : Except ε α) (f : α → β) :
  (outcome.map f).toOption = outcome.toOption.map f
  := by
  cases outcome <;> rfl

end

/-! ### Integers -/

theorem exists_addDigits {k : Nat}
    (h : addDigits significand added cs = (n, k, false, rest)) :
  ∃ digits, cs = digits ++ rest ∧ (∀ c ∈ digits, c.isDigit = true)
    ∧ Nat.ofDigitChars 10 digits significand = n ∧ ∀ c ∈ rest.head?, c.isDigit = false
  := by
  induction cs generalizing significand added with
  | nil =>
      cases h
      exact ⟨[], rfl, List.forall_mem_nil _, rfl, nofun⟩
  | cons c cs ih =>
      rw [addDigits] at h
      split at h
      · next hc =>
        simp only at h
        split at h
        · obtain ⟨digits, rfl, hdigits, hvalue, hrest⟩ := ih h
          refine ⟨c :: digits, rfl, List.forall_mem_cons.mpr ⟨hc, hdigits⟩, ?_, hrest⟩
          rw [Nat.ofDigitChars_cons]
          exact hvalue
        · cases h
      · next hc =>
        cases h
        refine ⟨[], rfl, List.forall_mem_nil _, rfl, ?_⟩
        intro d hd
        cases hd
        simpa using hc

/-- An integer ends where a number could not go on. -/
theorem stops_of_readBehindInteger (hdigit : ∀ c ∈ cs.head?, c.isDigit = false)
    (h : readBehindInteger negative n cs = .ok (.int i, rest)) :
  rest = cs ∧ Stops cs
  := by
  unfold readBehindInteger at h
  split at h
  · exact absurd h readFraction_ne_int
  · exact absurd h readExponent_ne_int
  · exact absurd h readExponent_ne_int
  · next hpoint hlower hupper =>
    have hrest : rest = cs := by
      split at h
      · cases h
        rfl
      · split at h <;> cases h
        rfl
    refine ⟨hrest, ?_⟩
    intro c hc
    cases cs with
    | nil => cases hc
    | cons d cs =>
        cases hc
        refine ⟨hdigit c rfl, ?_, ?_, ?_⟩
        · rintro rfl
          exact hpoint cs rfl
        · rintro rfl
          exact hlower cs rfl
        · rintro rfl
          exact hupper cs rfl

theorem readBehindInteger_eq_int (hdigit : ∀ c ∈ cs.head?, c.isDigit = false)
    (h : readBehindInteger negative n cs = .ok (.int i, rest)) {rest' : List Char}
    (hrest' : Stops rest') :
  readBehindInteger negative n rest' = .ok (.int i, rest')
  := by
  obtain ⟨rfl, hstops⟩ := stops_of_readBehindInteger hdigit h
  rw [readBehindInteger_of_stops hstops] at h
  rw [readBehindInteger_of_stops hrest']
  split at h
  · next hpositive =>
    cases h
    rw [if_pos hpositive]
  · next hnegative =>
    rw [if_neg hnegative]
    split at h
    · next hrange =>
      cases h
      rw [if_pos hrange]
    · cases h

/-- What is read as an integer are digits, and they are read as it in front of anything. -/
theorem readDigits_eq_int (h : readDigits negative cs = .ok (.int i, rest)) :
  Stops rest ∧ ∃ digits, cs = digits ++ rest ∧ (∀ c ∈ digits, c.isDigit = true)
    ∧ ∀ ⦃rest'⦄, Stops rest' → readDigits negative (digits ++ rest') = .ok (.int i, rest')
  := by
  unfold readDigits at h
  split at h
  · cases h
  · next behind =>
    have hbehind : readBehindInteger negative 0 behind = .ok (.int i, rest)
        ∧ ∀ c ∈ behind.head?, c.isDigit = false := by
      split at h
      · next c behind =>
        split at h
        · cases h
        · next hc =>
          refine ⟨h, ?_⟩
          intro d hd
          cases hd
          simpa using hc
      · exact ⟨h, nofun⟩
    obtain ⟨rfl, hstops⟩ := stops_of_readBehindInteger hbehind.2 hbehind.1
    refine ⟨hstops, ['0'], rfl, by simp, ?_⟩
    intro rest' hrest'
    rw [List.singleton_append, readDigits_zero hrest']
    exact readBehindInteger_eq_int hbehind.2 hbehind.1 hrest'
  · next c behind hzero =>
    split at h
    · next hc =>
      split at h
      · next heq =>
        have hroom := addDigits_lt 0 behind (digitValue_lt c)
        rw [heq] at hroom
        obtain ⟨digits, rfl, hdigits, rfl, hdigit⟩ := exists_addDigits heq
        obtain ⟨rfl, hstops⟩ := stops_of_readBehindInteger hdigit h
        refine ⟨hstops, c :: digits, rfl, List.forall_mem_cons.mpr ⟨hc, hdigits⟩, ?_⟩
        intro rest' hrest'
        rw [List.cons_append, readDigits_cons hc (by simpa using hzero) hdigits hroom hrest']
        exact readBehindInteger_eq_int hdigit h hrest'
      · unfold readBehindLong at h
        simp only at h
        split at h
        · exact absurd h readFraction_ne_int
        · exact absurd h readScaled_ne_int
    · cases h

/-- Digits come apart from what follows them in one way only. -/
theorem eq_of_digits_append {digits' rest' : List Char} (hdigits : ∀ c ∈ digits, c.isDigit = true)
    (hdigits' : ∀ c ∈ digits', c.isDigit = true) (hrest : ∀ c ∈ rest.head?, c.isDigit = false)
    (hrest' : ∀ c ∈ rest'.head?, c.isDigit = false) (h : digits ++ rest = digits' ++ rest') :
  digits = digits' ∧ rest = rest'
  := by
  have htake : ∀ {rest : List Char}, (∀ c ∈ rest.head?, c.isDigit = false) →
      rest.takeWhile Char.isDigit = [] := by
    intro rest hrest
    cases rest with
    | nil => rfl
    | cons c rest => exact List.takeWhile_cons_of_neg (by simp [hrest c rfl])
  have heq := congrArg (List.takeWhile Char.isDigit) h
  rw [List.takeWhile_append_of_pos hdigits, List.takeWhile_append_of_pos hdigits', htake hrest,
    htake hrest', List.append_nil, List.append_nil] at heq
  subst heq
  exact ⟨rfl, List.append_cancel_left h⟩

namespace Numeral

/-- No digit follows the integer part. -/
theorem isDigit_behind_whole (n : Numeral) (hrest : Stops rest) :
  ∀ c ∈ (n.fraction ++ (n.exponent ++ rest)).head?, c.isDigit = false
  := by
  obtain hfraction | ⟨digits, hfraction, -⟩ := n.fraction_eq
  · obtain hexponent | ⟨letter, sign, digits, hexponent, hletter, -⟩ := n.exponent_eq
    · rw [hfraction, hexponent]
      intro c hc
      exact (hrest c hc).1
    · rw [hfraction, hexponent]
      rintro c ⟨⟩
      simp only [List.mem_cons, List.not_mem_nil, or_false] at hletter
      obtain rfl | rfl := hletter <;> rfl
  · rw [hfraction]
    rintro c ⟨⟩
    rfl

/-- Behind an integer stands neither a fraction nor an exponent. -/
theorem unsigned_eq_whole (n : Numeral) (h : Stops (n.fraction ++ (n.exponent ++ rest))) :
  n.unsigned = n.whole
  := by
  obtain hfraction | ⟨digits, hfraction, -⟩ := n.fraction_eq
  · obtain hexponent | ⟨letter, sign, digits, hexponent, hletter, -⟩ := n.exponent_eq
    · rw [unsigned, hfraction, hexponent, List.append_nil, List.append_nil]
    · rw [hfraction, hexponent] at h
      obtain ⟨-, -, hlower, hupper⟩ := h letter rfl
      simp [hlower, hupper] at hletter
  · rw [hfraction] at h
    exact absurd rfl (h '.' rfl).2.1

/-- A number is read as one integer whatever follows, or it is never read as an integer. -/
theorem readDigits_cases (n : Numeral) (negative : Bool) :
  (∃ i, ∀ ⦃rest⦄, Stops rest → readDigits negative (n.unsigned ++ rest) = .ok (.int i, rest))
    ∨ ∀ ⦃rest⦄, Stops rest → ∀ i rest',
        readDigits negative (n.unsigned ++ rest) ≠ .ok (.int i, rest')
  := by
  by_contra hcases
  push Not at hcases
  obtain ⟨hnever, rest, hrest, i, rest', hread⟩ := hcases
  obtain ⟨hstops, digits, happend, hdigits, hagain⟩ := readDigits_eq_int hread
  rw [unsigned, List.append_assoc, List.append_assoc] at happend
  obtain ⟨rfl, rfl⟩ := eq_of_digits_append n.areDigits.2 hdigits (n.isDigit_behind_whole hrest)
    (fun c hc => (hstops c hc).1) happend
  obtain ⟨rest, hrest, hne⟩ := hnever i
  rw [n.unsigned_eq_whole hstops] at hne
  exact hne (hagain hrest)

end Numeral

/-! ### Strings -/

theorem readHex_cons {a b c d : Char} (hn : hexValue4? a b c d = some n) (cs : List Char) :
  readHex (a :: b :: c :: d :: cs) = .ok (n, cs)
  := by
  rw [readHex, hn]

/-- A `\u` escape is read alone or together with the escape that follows, and what stands behind the
closing quote is never looked at. -/
theorem exists_readUnicode {a b c d : Char} (hn : hexValue4? a b c d = some n) (hcs : IsBody cs) :
  ∃ c? : Option (Char × List Char), (∀ p ∈ c?, IsBody p.2 ∧ p.2.length ≤ cs.length)
    ∧ ∀ rest, (readUnicode (a :: b :: c :: d :: (cs ++ '"' :: rest))).toOption
      = c?.map fun p => (p.1, p.2 ++ '"' :: rest)
  := by
  simp only [readUnicode, readHex_cons hn, bind, Except.bind]
  cases hlow : isLowSurrogate n with
  | true => exact ⟨none, nofun, fun _ => rfl⟩
  | false =>
      cases hhigh : isHighSurrogate n with
      | false => exact ⟨some (Char.ofNat n, cs), by simp [hcs], fun _ => rfl⟩
      | true =>
          -- the other half of the pair has to follow as an escape of its own
          obtain _ | @⟨c, cs, -, hslash⟩ | @⟨c, cs, hc⟩ | @⟨m, a, b, c, d, cs, hm, hcs⟩ := hcs
          · exact ⟨none, nofun, fun _ => rfl⟩
          · refine ⟨none, nofun, fun rest => ?_⟩
            simp only [List.cons_append, Bool.false_eq_true, if_false, if_true]
            split
            · next heq => cases heq
            · rfl
            · next heq => exact absurd (List.cons.inj heq).1 hslash
            · rfl
            · rfl
          · simp only [List.mem_cons, List.not_mem_nil, or_false] at hc
            rcases hc with rfl | rfl | rfl | rfl | rfl | rfl | rfl | rfl <;>
              exact ⟨none, nofun, fun _ => rfl⟩
          · cases hpair : isLowSurrogate m with
            | false =>
                refine ⟨none, nofun, fun rest => ?_⟩
                simp only [List.cons_append, readHex_cons hm, hpair]
                rfl
            | true =>
                generalize hc : Char.ofNat (0x10000 + (n - 0xd800) * 0x400 + (m - 0xdc00)) = c
                refine ⟨some (c, cs), ?_, fun rest => ?_⟩
                · rintro p ⟨⟩
                  refine ⟨hcs, ?_⟩
                  simp only [List.length_cons]
                  omega
                · simp only [List.cons_append, readHex_cons hm, hpair, hc, Bool.false_eq_true,
                    if_false, if_true]
                  rfl

/-- What an escape is read as depends on what stands between the quotes only. -/
theorem exists_readEscape (h : IsBody ('\\' :: cs)) :
  ∃ c? : Option (Char × List Char), (∀ p ∈ c?, IsBody p.2 ∧ p.2.length < cs.length)
    ∧ ∀ rest, (readEscape (cs ++ '"' :: rest)).toOption = c?.map fun p => (p.1, p.2 ++ '"' :: rest)
  := by
  obtain _ | ⟨-, hslash, -, -⟩ | @⟨c, cs, hc, hcs⟩ | @⟨n, a, b, c, d, cs, hn, hcs⟩ := h
  · exact absurd rfl hslash
  · simp only [List.mem_cons, List.not_mem_nil, or_false] at hc
    rcases hc with rfl | rfl | rfl | rfl | rfl | rfl | rfl | rfl <;>
      exact ⟨some (_, cs), by simp [hcs], fun _ => rfl⟩
  · obtain ⟨c?, hc?, hread⟩ := exists_readUnicode hn hcs
    refine ⟨c?, fun p hp => ⟨(hc? p hp).1, ?_⟩, hread⟩
    have hle := (hc? p hp).2
    simp only [List.length_cons]
    omega

theorem readChars_backslash (read : List Char) (rounds : Nat) (cs : List Char) :
  readChars read (rounds + 1) ('\\' :: cs)
    = (readEscape cs).bind fun p => readChars (p.1 :: read) rounds p.2
  := by
  rw [readChars, if_neg (by decide), if_pos rfl]
  cases readEscape cs <;> rfl

/-- What a string is read as depends on what stands between the quotes only. -/
theorem exists_readChars (h : IsBody cs) (read : List Char) :
  ∃ chars? : Option (List Char), ∀ ⦃rounds⦄, cs.length < rounds → ∀ rest,
    (readChars read rounds (cs ++ '"' :: rest)).toOption = chars?.map (·, rest)
  := by
  induction hlength : cs.length using Nat.strongRecOn generalizing cs read with
  | _ length ih =>
      subst hlength
      cases cs with
      | nil =>
          use some read.reverse
          rintro (_ | rounds) hrounds rest
          · cases hrounds
          · rfl
      | cons c cs =>
          by_cases hslash : c = '\\'
          · subst hslash
            obtain ⟨c?, hc?, hescape⟩ := exists_readEscape h
            cases c? with
            | none =>
                use none
                rintro (_ | rounds) hrounds rest
                · cases hrounds
                · rw [List.cons_append, readChars_backslash, toOption_bind, hescape]
                  rfl
            | some p =>
                obtain ⟨hbody, hlt⟩ := hc? p rfl
                obtain ⟨chars?, hchars?⟩ :=
                  ih p.2.length (Nat.lt_succ_of_lt hlt) hbody (p.1 :: read) rfl
                use chars?
                rintro (_ | rounds) hrounds rest
                · cases hrounds
                · rw [List.cons_append, readChars_backslash, toOption_bind, hescape]
                  exact hchars? (Nat.lt_trans hlt (Nat.lt_of_succ_lt_succ hrounds)) rest
          · obtain _ | ⟨hquote, -, hcontrol, hbody⟩ | _ | _ := h
            · obtain ⟨chars?, hchars?⟩ := ih cs.length (Nat.lt_succ_self _) hbody (c :: read) rfl
              use chars?
              rintro (_ | rounds) hrounds rest
              · cases hrounds
              · rw [List.cons_append, readChars, if_neg hquote, if_neg hslash,
                  if_neg (Nat.not_lt.mpr hcontrol)]
                exact hchars? (Nat.lt_of_succ_lt_succ hrounds) rest
            · exact absurd rfl hslash
            · exact absurd rfl hslash

/-- A string is read alike whatever follows. -/
theorem Spelling.readTextBody_append (s : Spelling) (rest : List Char) :
  (readTextBody (s.body ++ '"' :: rest)).toOption = s.value?.map (·, rest)
  := by
  obtain ⟨chars?, hchars?⟩ := exists_readChars s.isBody []
  have hread : ∀ rest, (readTextBody (s.body ++ '"' :: rest)).toOption
      = chars?.map fun chars => (String.ofList chars, rest) := by
    intro rest
    have hrounds : s.body.length < (s.body ++ '"' :: rest).length + 1 := by
      simp only [List.length_append, List.length_cons]
      omega
    rw [readTextBody, toOption_map, hchars? hrounds, Option.map_map]
    rfl
  rw [value?, hread, hread]
  cases chars? <;> rfl

end JoinBench.Json
