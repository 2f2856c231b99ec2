import JoinBench.Proofs.Text
import JoinBench.Proofs.Text.Utf8

/-!
# Texts that come in pieces

What is made of every piece of some bytes on its own is what is made of all of them at once just if
that holds at every border.  A text that is decoded piece by piece is the decoded text just if no
border cuts a character, and the lines of the pieces are the lines of the text just if the pieces
end with lines.
-/

namespace JoinBench.Text

variable {α β : Type}

/-! ### Borders -/

/-- Something holds of every piece and of all that comes behind it. -/
def AtBorders (P : List α → List α → Prop) : List (List α) → Prop
  | [] => True
  | piece :: rest => P piece rest.flatten ∧ AtBorders P rest

section

variable {f : List α → List β} {P : List α → List α → Prop}

/-- All pieces together give at most as much as the pieces one by one, if two parts do. -/
theorem length_flatten_le (hnil : f [] = [])
    (happend : ∀ front behind, (f (front ++ behind)).length ≤ (f front).length + (f behind).length)
    (pieces : List (List α)) :
  (f pieces.flatten).length ≤ (pieces.flatMap f).length
  := by
  induction pieces with
  | nil => simp [hnil]
  | cons piece rest ih =>
      rw [List.flatten_cons, List.flatMap_cons, List.length_append]
      exact Nat.le_trans (happend _ _) (Nat.add_le_add_left ih _)

/-- Where two parts give less together than one by one unless they come apart, all pieces come apart
just if they do so at every border. -/
theorem flatMap_eq_flatten_iff (hnil : f [] = [])
    (happart : ∀ {front behind}, P front behind → f (front ++ behind) = f front ++ f behind)
    (hless : ∀ {front behind}, ¬ P front behind →
      (f (front ++ behind)).length < (f front).length + (f behind).length)
    (pieces : List (List α)) :
  pieces.flatMap f = f pieces.flatten ↔ AtBorders P pieces
  := by
  have happend : ∀ front behind,
      (f (front ++ behind)).length ≤ (f front).length + (f behind).length := by
    intro front behind
    by_cases hborder : P front behind
    · rw [happart hborder, List.length_append]
    · exact Nat.le_of_lt (hless hborder)
  induction pieces with
  | nil => simp [hnil, AtBorders]
  | cons piece rest ih =>
      rw [List.flatMap_cons, List.flatten_cons, AtBorders]
      constructor
      · intro h
        have hborder : P piece rest.flatten := by
          by_contra hborder
          have hlt := hless hborder
          rw [← h, List.length_append] at hlt
          have hle := length_flatten_le hnil happend rest
          omega
        rw [happart hborder] at h
        exact ⟨hborder, ih.mp (List.append_cancel_left h)⟩
      · rintro ⟨hborder, hrest⟩
        rw [ih.mpr hrest, happart hborder]

end

/-! ### Characters -/

/-- A text that is decoded piece by piece is the text of all bytes just if no border cuts a
character. -/
theorem flatMap_decode_eq_iff (pieces : List (List UInt8)) :
  (pieces.flatMap fun piece => (Utf8.decode piece).toList) = (Utf8.decode pieces.flatten).toList
    ↔ AtBorders (fun front behind => ¬ Utf8.IsCut front behind) pieces
  := by
  apply flatMap_eq_flatten_iff (f := fun bytes => (Utf8.decode bytes).toList)
  · rfl
  · intro front behind h
    exact Utf8.toList_decode_append h
  · intro front behind h
    exact Utf8.length_decode_append_lt (not_not.mp h)

/-! ### Lines -/

/-- There is a line for every line feed, and one more for what stands behind the last of them. -/
theorem length_charLines (cs : List Char) :
  (charLines cs).length = cs.count '\n' + if cs.getLast?.all (· = '\n') then 0 else 1
  := by
  suffices h : ∀ line, (charLines.go line cs).length
      = cs.count '\n' + if cs.getLast?.elim line.isEmpty (· = '\n') then 0 else 1 by
    rw [charLines, h]
    cases cs.getLast? <;> simp
  induction cs with
  | nil =>
      intro line
      cases line <;> rfl
  | cons c rest ih =>
      intro line
      by_cases hc : c = '\n'
      · obtain ⟨kept, -, hgo⟩ := exists_charLines_go_lineFeed line
        rw [hc, hgo, List.length_cons, charLines, ih, List.count_cons_self, List.getLast?_cons]
        cases rest.getLast? <;> simp +arith
      · rw [charLines_go_cons hc, ih, List.count_cons_of_ne hc, List.getLast?_cons]
        cases rest.getLast? <;> simp [hc]

/-- Bytes that leave no line unfinished: there are none, or the last is a line feed. -/
def EndsLine (bytes : List UInt8) : Prop :=
  ∀ b ∈ bytes.getLast?, b = 10

instance (bytes : List UInt8) : Decidable (EndsLine bytes) :=
  Option.decidableForallMem _

theorem length_lines_decode (bytes : List UInt8) :
  (lines (Utf8.decode bytes)).length = bytes.count 10 + if EndsLine bytes then 0 else 1
  := by
  have hends : (Utf8.decode bytes).toList.getLast?.all (· = '\n') ↔ EndsLine bytes := by
    rw [EndsLine, ← Utf8.getLast?_decode_eq_lineFeed_iff, Option.all_eq_true]
    simp
  rw [lines, List.length_map, length_charLines, Utf8.count_decode, if_congr hends rfl rfl]

theorem not_isCut_of_endsLine {front : List UInt8} (h : EndsLine front) (behind : List UInt8) :
  ¬ Utf8.IsCut front behind
  := by
  rintro ⟨begun, hbegun, -⟩
  obtain rfl | ⟨ahead, last, rfl⟩ := List.eq_nil_or_concat front
  · cases hbegun
  · rw [List.concat_eq_append] at h hbegun
    rw [h last List.getLast?_concat, Utf8.begunBehind_lineFeed] at hbegun
    cases hbegun

/-- Behind a finished line the lines of what follows are lines of their own. -/
theorem lines_decode_append {front : List UInt8} (h : EndsLine front) (behind : List UInt8) :
  lines (Utf8.decode (front ++ behind)) = lines (Utf8.decode front) ++ lines (Utf8.decode behind)
  := by
  have hlast := (Utf8.getLast?_decode_eq_lineFeed_iff front).mpr h
  rw [lines, Utf8.toList_decode_append (not_isCut_of_endsLine h behind), charLines_append hlast,
    List.map_append]
  rfl

/-- The lines of the pieces are the lines of all bytes just if every piece with something behind it
leaves no line unfinished. -/
theorem flatMap_lines_decode_eq_iff (pieces : List (List UInt8)) :
  (pieces.flatMap fun piece => lines (Utf8.decode piece)) = lines (Utf8.decode pieces.flatten)
    ↔ AtBorders (fun front behind => EndsLine front ∨ behind = []) pieces
  := by
  apply flatMap_eq_flatten_iff (f := fun bytes => lines (Utf8.decode bytes))
  · rfl
  · rintro front behind (h | rfl)
    · exact lines_decode_append h behind
    · rw [List.append_nil]
      exact (List.append_nil _).symm
  · intro front behind h
    obtain ⟨hfront, hne⟩ := not_or.mp h
    have hends : EndsLine (front ++ behind) ↔ EndsLine behind := by
      rw [EndsLine, List.getLast?_append, Option.or_of_isSome (by simpa using hne)]
      rfl
    rw [length_lines_decode, length_lines_decode front, length_lines_decode behind, if_neg hfront,
      if_congr hends rfl rfl, List.count_append]
    omega

end JoinBench.Text
