import JoinBench.Text.Utf8
import Mathlib.Tactic.Common

/-!
# Decoding bytes piece by piece

Bytes are decoded one after the other; between two of them there may be the beginning of a
character.  So a text comes apart at the borders of pieces of its bytes, except where a piece goes
on with a character that the bytes in front of it began.
-/

namespace JoinBench.Text.Utf8

variable {open? : Option Begun} {begun : Begun} {b : UInt8} {bytes front behind : List UInt8}

/-! ### Single bytes -/

/-- The characters that a byte yields at the start of a character, and the beginning it leaves. -/
def startWith (b : UInt8) : List Char × Option Begun :=
  match first b with
  | .whole c => ([c], none)
  | .begun next => ([], some next)
  | .invalid => ([replacement], none)

/-- The characters that a byte yields behind the beginning of a character, if there is one, and the
beginning it leaves. -/
def step (open? : Option Begun) (b : UInt8) : List Char × Option Begun :=
  match open? with
  | none => startWith b
  | some begun =>
    match begun.next? b with
    | some (.whole c) => ([c], none)
    | some (.begun next) => ([], some next)
    | some .invalid => ([replacement], none)
    | none => (replacement :: (startWith b).1, (startWith b).2)

theorem decodeFrom_cons (read : List Char) :
  decodeFrom read open? (b :: bytes)
    = decodeFrom ((step open? b).1.reverse ++ read) (step open? b).2 bytes
  := by
  rw [decodeFrom.eq_def, step.eq_def]
  cases open? with
  | none =>
      simp only [startWith]
      cases first b <;> rfl
  | some begun =>
      simp only [startWith]
      cases begun.next? b with
      | none => cases first b <;> rfl
      | some next => cases next <;> rfl

theorem decodeFrom_eq_append (read : List Char) (open? : Option Begun) (bytes : List UInt8) :
  decodeFrom read open? bytes = read.reverse ++ decodeFrom [] open? bytes
  := by
  induction bytes generalizing read open? with
  | nil => cases open? <;> simp [decodeFrom]
  | cons b bytes ih =>
      rw [decodeFrom_cons, decodeFrom_cons, ih, ih (_ ++ []), List.append_nil, List.reverse_append,
        List.append_assoc]

/-- The characters of bytes behind the beginning of a character, one byte at a time. -/
theorem decodeFrom_nil_cons :
  decodeFrom [] open? (b :: bytes) = (step open? b).1 ++ decodeFrom [] (step open? b).2 bytes
  := by
  rw [decodeFrom_cons, decodeFrom_eq_append, List.append_nil, List.reverse_reverse]

/-- The beginning of a character with which bytes end. -/
def begunBehind (open? : Option Begun) (bytes : List UInt8) : Option Begun :=
  bytes.foldl (fun open? b => (step open? b).2) open?

/-- The characters of bytes stand in front of what the bytes behind them make of the beginning of a
character that they leave. -/
theorem exists_decodeFrom_append (open? : Option Begun) (front : List UInt8) :
  ∃ cs, ∀ behind, decodeFrom [] open? (front ++ behind)
    = cs ++ decodeFrom [] (begunBehind open? front) behind
  := by
  induction front generalizing open? with
  | nil => exact ⟨[], fun _ => rfl⟩
  | cons b front ih =>
      obtain ⟨cs, hcs⟩ := ih (step open? b).2
      use (step open? b).1 ++ cs
      intro behind
      rw [List.cons_append, decodeFrom_nil_cons, hcs, List.append_assoc]
      rfl

/-! ### Beginnings of characters -/

/-- What the beginnings of characters have in common: only bytes from 0x80 to 0xbf go on with them,
and they make no control character. -/
structure Begun.IsProper (begun : Begun) : Prop where
  low_le : 0x80 ≤ begun.low.toNat
  high_le : begun.high.toNat ≤ 0xbf
  code_le : 0x10 ≤ begun.code * 0x40 + (begun.low.toNat - 0x80)

theorem isProper_of_first (h : first b = .begun begun) :
  begun.IsProper
  := by
  unfold first at h
  simp only [UInt8.lt_iff_toNat_lt, ← UInt8.toNat_inj] at h
  split_ifs at h <;> obtain rfl := First.begun.inj h
  all_goals constructor <;> simp <;> grind

/-- What fits behind the beginning of a character. -/
theorem next?_eq_some {next : First} (h : begun.next? b = some next) :
  (begun.low.toNat ≤ b.toNat ∧ b.toNat ≤ begun.high.toNat)
    ∧ (next = .whole (.ofNat (begun.code * 0x40 + (b.toNat - 0x80)))
      ∨ next = .begun ⟨begun.code * 0x40 + (b.toNat - 0x80), begun.missing - 1, 0x80, 0xbf⟩)
  := by
  unfold Begun.next? at h
  simp only [UInt8.le_iff_toNat_le] at h
  split_ifs at h with hrange hlast
  · exact ⟨hrange, .inl (Option.some.inj h).symm⟩
  · exact ⟨hrange, .inr (Option.some.inj h).symm⟩

namespace Begun.IsProper

theorem next {next : Begun} (hproper : begun.IsProper)
    (h : begun.next? b = some (.begun next)) :
  next.IsProper
  := by
  obtain ⟨⟨hlow, -⟩, hnext | hnext⟩ := next?_eq_some h
  · cases hnext
  · obtain ⟨hlow', -, hcode⟩ := hproper
    obtain rfl := First.begun.inj hnext
    constructor <;> simp
    omega

/-- A byte that goes on with a character begins none. -/
theorem first_eq_invalid {next : First} (hproper : begun.IsProper)
    (h : begun.next? b = some next) :
  first b = .invalid
  := by
  have hrange := (next?_eq_some h).1
  obtain ⟨hlow, hhigh, -⟩ := hproper
  unfold first
  simp only [UInt8.lt_iff_toNat_lt]
  rw [if_neg, if_pos]
  · simp
    omega
  · simp
    omega

end Begun.IsProper

theorem isProper_step (hproper : ∀ begun ∈ open?, begun.IsProper) :
  ∀ begun ∈ (step open? b).2, begun.IsProper
  := by
  have hstart : ∀ begun ∈ (startWith b).2, begun.IsProper := by
    intro begun hbegun
    rw [startWith] at hbegun
    split at hbegun
    · cases hbegun
    · next hfirst =>
      cases hbegun
      exact isProper_of_first hfirst
    · cases hbegun
  cases open? with
  | none => exact hstart
  | some open? =>
      intro begun hbegun
      simp only [step] at hbegun
      split at hbegun
      · cases hbegun
      · next hnext =>
        cases hbegun
        exact (hproper open? rfl).next hnext
      · cases hbegun
      · exact hstart begun hbegun

theorem isProper_begunBehind (hproper : ∀ begun ∈ open?, begun.IsProper) (bytes : List UInt8) :
  ∀ begun ∈ begunBehind open? bytes, begun.IsProper
  := by
  induction bytes generalizing open? with
  | nil => exact hproper
  | cons b bytes ih => exact ih (isProper_step hproper)

/-! ### Borders -/

/-- The bytes behind a border go on with a character that the bytes in front of it began. -/
def IsCut (front behind : List UInt8) : Prop :=
  ∃ begun ∈ begunBehind none front, ∃ b ∈ behind.head?, (begun.next? b).isSome = true

/-- The beginning of a character that does not go on is replaced. -/
theorem decodeFrom_some_of_not_fits (h : ∀ b ∈ bytes.head?, begun.next? b = none) :
  decodeFrom [] (some begun) bytes = replacement :: decodeFrom [] none bytes
  := by
  cases bytes with
  | nil => rfl
  | cons b bytes =>
      have hstep : step (some begun) b = (replacement :: (startWith b).1, (startWith b).2) := by
        simp [step, h b rfl]
      rw [decodeFrom_nil_cons, decodeFrom_nil_cons, hstep]
      rfl

/-- Where the beginning of a character goes on, it has at most as many characters together with what
follows as the bytes that follow have without it. -/
theorem length_decodeFrom_some_le (hproper : begun.IsProper)
    (h : ∃ b ∈ bytes.head?, (begun.next? b).isSome = true) :
  (decodeFrom [] (some begun) bytes).length ≤ (decodeFrom [] none bytes).length
  := by
  induction bytes generalizing begun with
  | nil =>
      obtain ⟨b, ⟨⟩, -⟩ := h
  | cons b bytes ih =>
      obtain ⟨b, ⟨⟩, hfits⟩ := h
      obtain ⟨next, hnext⟩ := Option.isSome_iff_exists.mp hfits
      have hfresh : step none b = ([replacement], none) := by
        simp [step, startWith, hproper.first_eq_invalid hnext]
      rw [decodeFrom_nil_cons, decodeFrom_nil_cons, hfresh]
      cases next with
      | whole c | invalid => simp [step, hnext]
      | begun next =>
          have hstep : step (some begun) b = ([], some next) := by
            simp [step, hnext]
          rw [hstep]
          by_cases hgoes : ∃ b ∈ bytes.head?, (next.next? b).isSome = true
          · have hle := ih (hproper.next hnext) hgoes
            simp only [List.nil_append, List.length_append, List.length_singleton]
            omega
          · rw [decodeFrom_some_of_not_fits]
            · simp
            · simpa using hgoes

/-- At a border that cuts no character a text comes apart. -/
theorem toList_decode_append (h : ¬ IsCut front behind) :
  (decode (front ++ behind)).toList = (decode front).toList ++ (decode behind).toList
  := by
  obtain ⟨cs, hcs⟩ := exists_decodeFrom_append none front
  have hfront := hcs []
  rw [List.append_nil] at hfront
  simp only [decode, String.toList_ofList, hcs, hfront, List.append_assoc,
    List.append_cancel_left_eq]
  cases hbegun : begunBehind none front with
  | none => rfl
  | some begun =>
      rw [decodeFrom_some_of_not_fits]
      · rfl
      · intro b hb
        by_contra hnext
        exact h ⟨begun, hbegun, b, hb, Option.isSome_iff_ne_none.mpr hnext⟩

/-- At a border that cuts a character there are fewer characters in all than in the two parts. -/
theorem length_decode_append_lt (h : IsCut front behind) :
  (decode (front ++ behind)).toList.length
    < (decode front).toList.length + (decode behind).toList.length
  := by
  obtain ⟨begun, hbegun, hfits⟩ := h
  obtain ⟨cs, hcs⟩ := exists_decodeFrom_append none front
  have hfront := hcs []
  have hproper : begun.IsProper := isProper_begunBehind (by simp) front begun hbegun
  have hle := length_decodeFrom_some_le hproper hfits
  rw [List.append_nil] at hfront
  rw [Option.mem_def] at hbegun
  simp only [decode, String.toList_ofList, hcs, hfront, hbegun, List.length_append]
  simp only [decodeFrom, Option.isSome_some, if_true, List.reverse_singleton, List.length_singleton]
  omega

/-! ### Line feeds -/

theorem ofNat_ne_lineFeed {n : Nat} (hn : n ≠ 10) :
  Char.ofNat n ≠ '\n'
  := by
  intro h
  by_cases hvalid : n.isValidChar
  · have hvalue : (Char.ofNat n).toNat = n := by
      rw [Char.ofNat, dif_pos hvalid]
      rfl
    rw [h] at hvalue
    exact hn hvalue.symm
  · rw [Char.ofNat, dif_neg hvalid] at h
    cases h

theorem count_startWith (b : UInt8) :
  (startWith b).1.count '\n' = if b = 10 then 1 else 0
  := by
  by_cases hb : b = 10
  · rw [hb]
    decide
  · rw [if_neg hb, startWith, List.count_eq_zero]
    split
    · next c hfirst =>
      unfold first at hfirst
      split_ifs at hfirst
      obtain rfl := First.whole.inj hfirst
      rw [List.mem_singleton]
      exact (ofNat_ne_lineFeed fun h => hb (UInt8.toNat_inj.mp h)).symm
    · exact List.not_mem_nil
    · decide

/-- A line feed comes from the byte of a line feed, and from no other. -/
theorem count_step (hproper : ∀ begun ∈ open?, begun.IsProper) (b : UInt8) :
  (step open? b).1.count '\n' = if b = 10 then 1 else 0
  := by
  cases open? with
  | none => exact count_startWith b
  | some begun =>
      obtain ⟨hlow, -, hcode⟩ := hproper begun rfl
      cases hnext : begun.next? b with
      | none =>
          have hstep : step (some begun) b = (replacement :: (startWith b).1, (startWith b).2) := by
            simp [step, hnext]
          rw [hstep, List.count_cons_of_ne (by decide), count_startWith]
      | some next =>
          obtain ⟨⟨hrange, -⟩, rfl | rfl⟩ := next?_eq_some hnext
          all_goals
            have hb : b ≠ 10 := by
              rintro rfl
              exact absurd (Nat.le_trans hlow hrange) (by decide)
            rw [if_neg hb, List.count_eq_zero]
            simp only [step, hnext, List.not_mem_nil, not_false_eq_true, List.mem_singleton]
          exact (ofNat_ne_lineFeed (by omega)).symm

theorem count_decodeFrom (hproper : ∀ begun ∈ open?, begun.IsProper) (bytes : List UInt8) :
  (decodeFrom [] open? bytes).count '\n' = bytes.count 10
  := by
  induction bytes generalizing open? with
  | nil =>
      cases open? with
      | none => rfl
      | some begun => exact (show [replacement].count '\n' = 0 by decide)
  | cons b bytes ih =>
      rw [decodeFrom_nil_cons, List.count_append, count_step hproper, ih (isProper_step hproper),
        List.count_cons, Nat.add_comm]
      simp

/-- The text of bytes has as many line feeds as the bytes. -/
theorem count_decode (bytes : List UInt8) :
  (decode bytes).toList.count '\n' = bytes.count 10
  := by
  rw [decode, String.toList_ofList]
  exact count_decodeFrom (by simp) bytes

theorem decodeFrom_lineFeed (open? : Option Begun) (hproper : ∀ begun ∈ open?, begun.IsProper) :
  ∃ cs, decodeFrom [] open? [10] = cs ++ ['\n'] ∧ (step open? 10).2 = none
  := by
  cases open? with
  | none => exact ⟨[], by decide, rfl⟩
  | some begun =>
      have hnext : begun.next? 10 = none := by
        cases hnext : begun.next? 10 with
        | none => rfl
        | some next =>
            have hrange := (next?_eq_some hnext).1.1
            exact absurd (Nat.le_trans (hproper begun rfl).low_le hrange) (by decide)
      refine ⟨[replacement], ?_, ?_⟩
      · rw [decodeFrom_some_of_not_fits]
        · decide
        · simpa using hnext
      · simp only [step, hnext]
        rfl

theorem decodeFrom_singleton_ne_nil (open? : Option Begun) (b : UInt8) :
  decodeFrom [] open? [b] ≠ []
  := by
  rw [decodeFrom_nil_cons, step.eq_def]
  cases open? with
  | none =>
      simp only [startWith]
      split <;> simp [decodeFrom]
  | some begun =>
      simp only
      split <;> simp [decodeFrom]

theorem begunBehind_lineFeed (front : List UInt8) :
  begunBehind none (front ++ [10]) = none
  := by
  have hproper : ∀ begun ∈ begunBehind none front, begun.IsProper :=
    isProper_begunBehind (by simp) front
  obtain ⟨-, -, hclosed⟩ := decodeFrom_lineFeed _ hproper
  rw [begunBehind, List.foldl_append]
  exact hclosed

/-- A text ends in a line feed just where its bytes do. -/
theorem getLast?_decode_eq_lineFeed_iff (bytes : List UInt8) :
  (∀ c ∈ (decode bytes).toList.getLast?, c = '\n') ↔ ∀ b ∈ bytes.getLast?, b = 10
  := by
  obtain rfl | ⟨front, last, rfl⟩ := List.eq_nil_or_concat bytes
  · simp [decode, decodeFrom]
  · have hproper : ∀ begun ∈ begunBehind none front, begun.IsProper :=
      isProper_begunBehind (by simp) front
    obtain ⟨cs, hcs⟩ := exists_decodeFrom_append none front
    rw [List.concat_eq_append, decode, String.toList_ofList, hcs, List.getLast?_append,
      List.getLast?_concat]
    have hne := decodeFrom_singleton_ne_nil (begunBehind none front) last
    rw [Option.or_of_isSome (by simpa using hne)]
    by_cases hlast : last = 10
    · obtain ⟨more, hmore, -⟩ := decodeFrom_lineFeed _ hproper
      simp [hlast, hmore]
    · have hcount := count_decodeFrom hproper [last]
      rw [List.count_singleton, if_neg (by simpa using hlast), List.count_eq_zero] at hcount
      constructor
      · intro h
        exact absurd (h _ (List.getLast?_eq_some_getLast hne) ▸ List.getLast_mem hne) hcount
      · intro h
        exact absurd (h last rfl) hlast

end JoinBench.Text.Utf8
