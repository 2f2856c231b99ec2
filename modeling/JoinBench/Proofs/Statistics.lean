import JoinBench.Proofs.Json.Decode
import JoinBench.Proofs.Json.OneLine
import JoinBench.Proofs.Text
import JoinBench.Statistics

/-!
# Which statistics units report

A value in the output of a unit is canonical throughout.  Conversely a canonical value without
doubles, unless its brackets are too many, is found in every output in which its text stands behind
the first marker, with blanks around it and anything in front of the marker and on other lines.
There are no statistics just where no line has the marker.
-/

namespace JoinBench.Statistics

open Json Text

variable {v : Json} {i : Int}

theorem every_isCanonical_of_parse {output : String}
    (hparse : Statistics.parse output = .ok (some v)) :
  v.Every IsCanonical
  := by
  rw [Statistics.parse] at hparse
  split at hparse
  · cases hparse
  · split at hparse
    · next hvalue =>
      cases hparse
      exact Json.every_isCanonical_of_parse hvalue
    · cases hparse

/-! ### Reporting a value -/

theorem isBlank_of_mem_renderInt {c : Char} (hc : c ∈ renderInt i) :
  isBlank c = false
  := by
  rw [renderInt] at hc
  split at hc
  · rcases List.mem_cons.mp hc with rfl | hc
    · decide
    · exact isBlank_of_mem_toDigits hc
  · exact isBlank_of_mem_toDigits hc

/-- The text of a value has no blanks at either end. -/
theorem isBlank_ends_render (hexact : v.IsExact) :
  (∀ c ∈ (render v).head?, isBlank c = false) ∧ ∀ c ∈ (render v).getLast?, isBlank c = false
  := by
  have hbetween : ∀ {first last : Char} (body : List Char), isBlank first = false →
      isBlank last = false → (∀ c ∈ (first :: body ++ [last]).head?, isBlank c = false)
        ∧ ∀ c ∈ (first :: body ++ [last]).getLast?, isBlank c = false := by
    intro first last body hfirst hlast
    rw [List.getLast?_concat]
    simp [hfirst, hlast]
  cases v with
  | null => exact hbetween ['u', 'l'] (by decide) (by decide)
  | bool value =>
      cases value with
      | false => exact hbetween ['a', 'l', 's'] (by decide) (by decide)
      | true => exact hbetween ['r', 'u'] (by decide) (by decide)
  | int i =>
      constructor
      · exact fun c hc => isBlank_of_mem_renderInt (List.mem_of_mem_head? hc)
      · exact fun c hc => isBlank_of_mem_renderInt (List.mem_of_getLast? hc)
  | double x => cases hexact x rfl
  | text s => exact hbetween _ (by decide) (by decide)
  | list items => exact hbetween _ (by decide) (by decide)
  | object members => exact hbetween _ (by decide) (by decide)

/-- Whether the marker stands in a text. -/
def IsMarked (cs : List Char) : Prop :=
  marker.toList <:+: cs

theorem behind?_marker_eq_none_iff {cs : List Char} :
  behind? marker.toList cs = none ↔ ¬ IsMarked cs
  := behind?_eq_none_iff (by decide)

instance : DecidablePred IsMarked :=
  fun _ => decidable_of_iff _ (behind?_marker_eq_none_iff.not.trans not_not)

/-- What stands behind the marker in a line, which may have lost a carriage return. -/
theorem exists_behind?_eq_some {lead text line : List Char} (hlead : ¬ IsMarked lead)
    (hne : text ≠ []) (hline : lead ++ (marker.toList ++ text) = line
      ∨ lead ++ (marker.toList ++ text) = line ++ ['\r']) :
  ∃ found, behind? marker.toList line = some found ∧ trimBlanks found = trimBlanks text
  := by
  have hfirst : 'S' ∉ ['t', 'a', 't', 's', ':'] := by
    decide
  have hbehind : ∀ rest, behind? marker.toList (lead ++ (marker.toList ++ rest)) = some rest :=
    behind?_append_cons hfirst hlead
  obtain rfl | hreturn := hline
  · exact ⟨text, hbehind text, rfl⟩
  · obtain ⟨found, last, rfl⟩ := (List.eq_nil_or_concat text).resolve_left hne
    rw [List.concat_eq_append, ← List.append_assoc, ← List.append_assoc] at hreturn
    obtain ⟨rfl, hlast⟩ := List.append_inj' hreturn rfl
    rw [List.append_assoc, hbehind, List.concat_eq_append, hlast,
      trimBlanks_append (List.forall_mem_singleton.mpr (by decide))]
    exact ⟨found, rfl, rfl⟩

/-- There are no statistics in an output just where no line has the marker. -/
theorem payload?_eq_none_iff {output : String} :
  payload? output = none ↔ ∀ line ∈ lines output, ¬ IsMarked line.toList
  := by
  rw [payload?, Option.map_eq_none_iff, List.findSome?_eq_none_iff, lines, List.forall_mem_map]
  simp only [String.toList_ofList, behind?_marker_eq_none_iff]

/-- A value as it may stand in an output: whole lines in front, the marked line with anything in
front of the marker and with blanks around the text of the value, and whatever lines follow. -/
structure Report where
  front : String
  lead : String
  opening : String
  value : Json
  closing : String
  rest : String
  isEnded_front : ∀ c ∈ front.toList.getLast?, c = '\n'
  not_isMarked_front : ¬ IsMarked front.toList
  lineFeed_notMem_lead : '\n' ∉ lead.toList
  not_isMarked_lead : ¬ IsMarked lead.toList
  isBlank_opening : ∀ c ∈ opening.toList, isBlank c = true ∧ c ≠ '\n'
  every_isPlain : value.Every IsPlain
  depth_lt : value.depth < 128
  isBlank_closing : ∀ c ∈ closing.toList, isBlank c = true ∧ c ≠ '\n'
  startsLine_rest : ∀ c ∈ rest.toList.head?, c = '\n'

namespace Report

/-- The output with the value. -/
def output (r : Report) : String :=
  r.front ++ r.lead ++ marker ++ r.opening ++ r.value.compact ++ r.closing ++ r.rest

/-- What stands behind the marker in its line. -/
def text (r : Report) : List Char :=
  r.opening.toList ++ (render r.value ++ r.closing.toList)

/-- The marked line. -/
def line (r : Report) : List Char :=
  r.lead.toList ++ (marker.toList ++ r.text)

theorem toList_output (r : Report) :
  r.output.toList = r.front.toList ++ (r.line ++ r.rest.toList)
  := by
  simp only [output, line, text, compact, String.toList_append, String.toList_ofList,
    List.append_assoc]

theorem lineFeed_notMem_line (r : Report) :
  '\n' ∉ r.line
  := by
  simp only [line, text, List.mem_append, not_or]
  refine ⟨r.lineFeed_notMem_lead, by decide, ?_, ?_, ?_⟩
  · exact fun h => (r.isBlank_opening _ h).2 rfl
  · exact (isOneLine_render r.value).lineFeed_notMem
  · exact fun h => (r.isBlank_closing _ h).2 rfl

theorem text_ne_nil (r : Report) :
  r.text ≠ []
  := by
  obtain ⟨c, cs, hrender, -⟩ := exists_render_eq_cons r.every_isPlain.self.2
  simp [text, hrender]

theorem trimBlanks_text (r : Report) :
  trimBlanks r.text = render r.value
  := by
  have hends := isBlank_ends_render r.every_isPlain.self.2
  exact trimBlanks_between (fun c hc => (r.isBlank_opening c hc).1) hends.1 hends.2
    fun c hc => (r.isBlank_closing c hc).1

/-- The lines in front have no marker, so the first line with one is that of the value. -/
theorem payload?_output (r : Report) :
  payload? r.output = some r.value.compact
  := by
  have hmarker : marker.toList ≠ [] := by
    decide
  have hfront : (charLines r.front.toList).findSome? (behind? marker.toList) = none := by
    rw [List.findSome?_eq_none_iff]
    intro line hline
    rw [behind?_marker_eq_none_iff]
    exact fun hmarked => r.not_isMarked_front (hmarked.trans (isInfix_of_mem_charLines hline))
  have hne : r.line ≠ [] :=
    List.append_ne_nil_of_right_ne_nil _ (List.append_ne_nil_of_left_ne_nil hmarker _)
  obtain ⟨kept, more, hkept, hlines⟩ :=
    exists_charLines_eq_cons r.lineFeed_notMem_line hne r.startsLine_rest
  obtain ⟨found, hfound, htrim⟩ :=
    exists_behind?_eq_some r.not_isMarked_lead r.text_ne_nil hkept
  rw [payload?, r.toList_output, charLines_append r.isEnded_front, hlines, List.findSome?_append,
    hfront, List.findSome?_cons, hfound, Option.none_or, Option.map_some, htrim,
    r.trimBlanks_text, compact]

theorem parse_output (r : Report) :
  Statistics.parse r.output = .ok (some r.value)
  := by
  have hdepth : r.value.depth ≤ maxNesting := Nat.le_of_lt_succ r.depth_lt
  have hread : Json.parse (String.ofList (render r.value ++ [])) = .ok r.value :=
    ofText_eq_ok (reads_render r.every_isPlain hdepth) (List.forall_mem_nil _)
  rw [List.append_nil] at hread
  simp only [Statistics.parse, r.payload?_output, compact, hread]

end Report

/-- A value is reported by its text behind the marker. -/
theorem parse_marker_compact (hv : v.Every IsPlain)
    (hdepth : v.depth ≤ maxNesting) :
  Statistics.parse (marker ++ v.compact) = .ok (some v)
  := by
  let report : Report :=
    { front := "", lead := "", opening := "", value := v, closing := "", rest := ""
      isEnded_front := by simp, not_isMarked_front := by decide
      lineFeed_notMem_lead := by decide, not_isMarked_lead := by decide
      isBlank_opening := by simp, every_isPlain := hv, depth_lt := Nat.lt_succ_of_le hdepth
      isBlank_closing := by simp, startsLine_rest := by simp }
  have hparse := report.parse_output
  simpa [report, Report.output] using hparse

/-- A value that stands behind the first marker is found, whatever stands around it, and nothing is
found just where no line has the marker. -/
theorem parse_spec :
  (∀ r : Report, Statistics.parse r.output = .ok (some r.value))
    ∧ ∀ output, Statistics.parse output = .ok none
      ↔ ∀ line ∈ lines output, ¬ IsMarked line.toList
  := by
  use Report.parse_output
  intro output
  rw [← payload?_eq_none_iff, Statistics.parse]
  split
  · next hnone => simp [hnone]
  · next text htext =>
    rw [htext]
    split
    · simp
    · simp

theorem areBlank_of_all {cs : List Char}
    (h : (cs.all fun c => isBlank c && c != '\n') = true) :
  ∀ c ∈ cs, isBlank c = true ∧ c ≠ '\n'
  := by simpa using h

/-- A value that holds the marker and a line feed, behind a line of a log and in front of a marked
line that cannot be read. -/
def amongLogs : Report where
  front := "ready\r\n"
  lead := "12:00 Stat "
  opening := "\t\u00a0"
  value := .object [("sent", .list [.int (-42), .null]), ("warning", .text "Stats: \"1\"\n")]
  closing := " \r"
  rest := "\nStats: \x7bbroken"
  isEnded_front _ hc := Option.mem_unique hc (by decide)
  not_isMarked_front := by decide
  lineFeed_notMem_lead := by decide +kernel
  not_isMarked_lead := by decide
  isBlank_opening := areBlank_of_all (by decide)
  every_isPlain := by
    have hplain : ∀ {v : Json}, v.IsExact → v.IsCanonical → v.parts = [] → v.Every IsPlain :=
      fun hexact hcanonical hparts => .leaf hparts ⟨hcanonical, hexact⟩
    refine .intro ⟨?_, by rintro _ ⟨⟩⟩ ?_
    · exact List.pairwise_pair.mpr (by decide)
    · simp only [parts, List.map_cons, List.map_nil, List.forall_mem_cons]
      refine ⟨.intro ⟨trivial, by rintro _ ⟨⟩⟩ ?_, hplain (by rintro _ ⟨⟩) trivial rfl, ?_⟩
      · simp only [parts, List.forall_mem_cons]
        refine ⟨hplain (by rintro _ ⟨⟩) ?_ rfl, hplain (by rintro _ ⟨⟩) trivial rfl, ?_⟩
        · exact ⟨by decide, by decide⟩
        · exact List.forall_mem_nil _
      · exact List.forall_mem_nil _
  depth_lt := by simp [depth, itemsDepth, membersDepth]
  isBlank_closing := areBlank_of_all (by decide)
  startsLine_rest _ hc := Option.mem_unique hc (by decide)

theorem parse_spec_amongLogs :
  Statistics.parse
      ("ready\r\n12:00 Stat Stats:\t\u00a0\x7b\"sent\":[-42,null],\"warning\":"
        ++ "\"Stats: \\\"1\\\"\\n\"\x7d \r\nStats: \x7bbroken")
    = .ok (some (.object
      [("sent", .list [.int (-42), .null]), ("warning", .text "Stats: \"1\"\n")]))
  ∧ Statistics.parse "Stat\ns: 1\r" = .ok none
  := by
  have houtput : amongLogs.output
      = "ready\r\n12:00 Stat Stats:\t\u00a0\x7b\"sent\":[-42,null],\"warning\":"
        ++ "\"Stats: \\\"1\\\"\\n\"\x7d \r\nStats: \x7bbroken" := by
    decide +kernel
  constructor
  · rw [← houtput]
    exact parse_spec.1 amongLogs
  · exact (parse_spec.2 _).mpr (by decide +kernel)

end JoinBench.Statistics
