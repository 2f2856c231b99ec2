import JoinBench.Proofs.Sink
import JoinBench.Proofs.Statistics

/-!
# Reading records back

The line of a record is read back as the record, except for two things that the statistics of a
unit may hold.  A unit that reported `null` is read like one that reported nothing, and the
record cannot be read if statistics nest so deep that the brackets of the record around them
are too many.
-/

namespace JoinBench

open Json

/-- A value is `null`. -/
def Json.isNull : Json → Bool
  | .null => true
  | _ => false

namespace ResultRecord

/-- A record whose numbers have 64 bits, and whose statistics were reported by units under names
that ascend, and have no doubles. -/
structure IsReported (r : ResultRecord) : Prop where
  nSources_lt : r.nSources < Text.bound64
  setSize_lt : r.setSize < Text.bound64
  joinSize_lt : r.joinSize < Text.bound64
  rep_lt : r.rep < Text.bound64
  ordered : r.nodesStats.Pairwise (·.1 < ·.1)
  reported : ∀ m ∈ r.nodesStats, ∀ v ∈ m.2,
    (∃ output, Statistics.parse output = .ok (some v)) ∧ v.Every IsExact

/-- How deep statistics may nest in a record that is read: the brackets of the record and of its
map of statistics are around them. -/
def statsRoom : Nat := maxNesting - 2

/-- The record with no statistics where a unit reported `null`. -/
def withoutNulls (r : ResultRecord) : ResultRecord :=
  { r with nodesStats := r.nodesStats.map fun m => (m.1, m.2.filter (! ·.isNull)) }

variable {r : ResultRecord}

theorem IsReported.every (hr : r.IsReported) :
  ∀ m ∈ r.nodesStats, ∀ v ∈ m.2, v.Every IsPlain
  := by
  intro m hm v hv
  obtain ⟨⟨output, hparse⟩, hexact⟩ := hr.reported m hm v hv
  exact (Statistics.every_isCanonical_of_parse hparse).and hexact

/-- Units can report all canonical values without doubles that have room for their brackets. -/
theorem isReported_of_every
    (hnumbers : ∀ n ∈ [r.nSources, r.setSize, r.joinSize, r.rep], n < Text.bound64)
    (hordered : r.nodesStats.Pairwise (·.1 < ·.1))
    (hstats : ∀ m ∈ r.nodesStats, ∀ v ∈ m.2, v.Every IsPlain ∧ v.depth ≤ maxNesting) :
  r.IsReported
  where
    nSources_lt := hnumbers _ (by simp)
    setSize_lt := hnumbers _ (by simp)
    joinSize_lt := hnumbers _ (by simp)
    rep_lt := hnumbers _ (by simp)
    ordered := hordered
    reported := by
      intro m hm v hv
      obtain ⟨hevery, hdepth⟩ := hstats m hm v hv
      exact ⟨⟨_, Statistics.parse_marker_compact hevery hdepth⟩, hevery.imp And.right⟩

/-! ### The text of a record -/

/-- The text of the statistics of a unit. -/
def statText (stat : Option Json) : List Char :=
  render (stat.getD .null)

/-- The text of the statistics of all units. -/
def statsText (r : ResultRecord) : List Char :=
  objectText (r.nodesStats.map fun m => (m.1, statText m.2))

/-- The members with the numbers of a record. -/
def numbers (r : ResultRecord) : List (String × List Char) :=
  [("n_sources", renderInt r.nSources), ("set_size", renderInt r.setSize),
   ("join_size", renderInt r.joinSize), ("rep", renderInt r.rep)]

theorem jsonText_eq (r : ResultRecord) :
  r.jsonText = String.ofList (objectText (r.numbers ++ [("nodes_stats", r.statsText)]))
  := by
  simp [jsonText, statsJson, render_object, numbers, statsText, statText, objectText, separated,
    comma, memberText, render, Function.comp_def]

theorem isOneLine_jsonText (r : ResultRecord) :
  IsOneLine r.jsonText.toList
  := by
  rw [jsonText_eq, String.toList_ofList]
  apply isOneLine_objectText
  have hstats : IsOneLine r.statsText := by
    apply isOneLine_objectText
    rw [List.forall_mem_map]
    exact fun m _ => isOneLine_render _
  simp [numbers, isOneLine_renderInt, hstats]

/-! ### Reading the statistics -/

section

variable {stat : Option Json} {v : Json} {room : Nat}

theorem reads_statText (hstat : ∀ v ∈ stat, v.Every IsPlain)
    (hnull : stat ≠ some .null) (hroom : ∀ v ∈ stat, v.depth ≤ room) :
  Reads (readOptional readValue room) (statText stat) stat
  := by
  cases stat with
  | none => exact reads_readOptional_null readValue room
  | some v =>
      have hv := hstat v rfl
      obtain ⟨c, cs, htext, hspace, -, hn⟩ := exists_render_eq_cons hv.self.2
      have hne : c ≠ 'n' := by
        intro hc
        rw [hn hc] at hnull
        exact hnull rfl
      exact reads_readOptional (reads_render hv (hroom v rfl)) htext hspace hne

theorem meets_statText (hv : v.Every IsPlain) (hroom : room < v.depth) :
  Meets (readOptional readValue room) (statText (some v)) .nestedTooDeep
  := by
  obtain ⟨c, cs, htext, hspace, -, hn⟩ := exists_render_eq_cons hv.self.2
  have hne : c ≠ 'n' := by
    intro hc
    rw [hn hc] at hroom
    cases hroom
  exact meets_readOptional (meets_render hv hroom) htext hspace hne

end

/-! ### Reading the record -/

/-- The record of a complete draft. -/
def Draft.toRecord (d : Draft) : ResultRecord :=
  ⟨d.nSources.getD 0, d.setSize.getD 0, d.joinSize.getD 0, d.rep.getD 0, d.nodesStats.getD []⟩

/-- The draft of a record of which the numbers were read. -/
def numbersDraft (r : ResultRecord) : Draft where
  nSources := some r.nSources
  setSize := some r.setSize
  joinSize := some r.joinSize
  rep := some r.rep

theorem gathers_numbers (hr : r.IsReported) (room : Nat) :
  Gathers (readField record room) {} r.numbers r.numbersDraft
  := by
  have hsize : ∀ {n : Nat}, n < Text.bound64 → Reads (readSize room) (renderInt n) n :=
    fun hn => reads_readNat "usize" room hn (Nat.le_refl _)
  apply Gathers.cons (reads_readField rfl rfl (reads_of (hsize hr.nSources_lt)))
  apply Gathers.cons (reads_readField rfl rfl (reads_of (hsize hr.setSize_lt)))
  apply Gathers.cons (reads_readField rfl rfl (reads_of (hsize hr.joinSize_lt)))
  apply Gathers.cons (reads_readField rfl rfl (reads_of (hsize hr.rep_lt)))
  exact Gathers.nil _

/-- A record is read if its statistics are. -/
theorem reads_read {room : Nat} {text : List Char} (hr : r.IsReported)
    (hstats : Reads (readMap (readOptional readValue) room) text r.nodesStats) :
  Reads (ResultRecord.read (room + 1)) (objectText (r.numbers ++ [("nodes_stats", text)])) r
  := by
  have hfield : Reads (readField record room r.numbersDraft "nodes_stats") (':' :: text)
      { r.numbersDraft with nodesStats := some r.nodesStats } :=
    reads_readField rfl rfl (reads_of hstats)
  have hgathers := (gathers_numbers hr room).append (.cons hfield (.nil _))
  exact (reads_readRecord hgathers rfl).map Draft.toRecord

theorem meets_read {room : Nat} {text : List Char} {problem : Problem} (hr : r.IsReported)
    (hstats : Meets (readMap (readOptional readValue) room) text problem) :
  Meets (ResultRecord.read (room + 1)) (objectText (r.numbers ++ [("nodes_stats", text)])) problem
  := by
  have hfield : Meets (readField record room r.numbersDraft "nodes_stats") (':' :: text) problem :=
    meets_readField rfl rfl (meets_of hstats)
  exact (meets_readRecord (gathers_numbers hr room) hfield).map Draft.toRecord

/-- A record is read from its line, with blanks behind it or not, if no unit reported `null` and
no statistics nest too deep. -/
theorem parse_jsonText {ending : String} (hr : r.IsReported)
    (hnull : ∀ m ∈ r.nodesStats, m.2 ≠ some .null)
    (hroom : ∀ m ∈ r.nodesStats, ∀ v ∈ m.2, v.depth ≤ statsRoom)
    (hblank : ∀ c ∈ ending.toList, isSpace c = true) :
  ResultRecord.parse (r.jsonText ++ ending) = .ok r
  := by
  have hstats : Reads (readMap (readOptional readValue) (statsRoom + 1)) r.statsText
      r.nodesStats := by
    apply reads_readMap hr.ordered
    exact fun m hm => reads_statText (hr.every m hm) (hnull m hm) (hroom m hm)
  have hread := ofText_eq_ok (reads_read hr hstats) hblank
  rw [String.ofList_append, String.ofList_toList, ← jsonText_eq] at hread
  rw [ResultRecord.parse, hread]

/-- No record is read from the line of one with statistics that nest too deep. -/
theorem exists_parse_jsonText_eq_error (hr : r.IsReported)
    (hnull : ∀ m ∈ r.nodesStats, m.2 ≠ some .null) {m : String × Option Json}
    (hm : m ∈ r.nodesStats) {v : Json} (hv : v ∈ m.2) (hdeep : statsRoom < v.depth)
    (ending : String) :
  ∃ left, ResultRecord.parse (r.jsonText ++ ending)
    = .error (.json (Fault.message ⟨.nestedTooDeep, left⟩ (r.jsonText ++ ending)))
  := by
  have hsome : statsRoom < itemsDepth (r.nodesStats.map fun m => m.2.getD .null) := by
    apply Nat.lt_of_not_le
    rw [itemsDepth_le_iff, List.forall_mem_map]
    intro hall
    have hle := hall m hm
    rw [hv, Option.getD_some] at hle
    exact absurd hdeep (Nat.not_lt.mpr hle)
  obtain ⟨ahead, ⟨name, stat⟩, behind, hsplit, hahead, hfirst⟩ := exists_first_deep hsome
  cases stat with
  | none => cases hfirst
  | some w =>
      have hevery := hr.every
      have hordered := hr.ordered
      have hnone := hnull
      rw [hsplit] at hevery hordered hnone
      have hstats : Meets (readMap (readOptional readValue) (statsRoom + 1)) r.statsText
          .nestedTooDeep := by
        rw [statsText, hsplit]
        apply meets_readMap (List.pairwise_append.mp hordered).1
        · intro other hother
          have hmem := List.mem_append_left ((name, some w) :: behind) hother
          apply reads_statText (hevery other hmem) (hnone other hmem)
          intro x hx
          have hle := hahead other hother
          rw [hx] at hle
          exact hle
        · exact meets_statText (hevery (name, some w) List.mem_append_cons_self w rfl) hfirst
      obtain ⟨left, hread⟩ := exists_ofText_eq_error (meets_read hr hstats) ending.toList
      rw [String.ofList_append, String.ofList_toList, ← jsonText_eq] at hread
      use left
      rw [ResultRecord.parse, hread]

/-! ### Records with `null` -/

theorem statText_filter (stat : Option Json) :
  statText (stat.filter (! ·.isNull)) = statText stat
  := by
  cases stat with
  | none => rfl
  | some v => cases v <;> rfl

/-- Nothing reported and `null` reported are written alike. -/
theorem jsonText_withoutNulls (r : ResultRecord) :
  r.withoutNulls.jsonText = r.jsonText
  := by
  simp [jsonText_eq, numbers, statsText, withoutNulls, statText_filter, Function.comp_def]

theorem withoutNulls_ne_null (r : ResultRecord) :
  ∀ m ∈ r.withoutNulls.nodesStats, m.2 ≠ some .null
  := by
  rw [withoutNulls, List.forall_mem_map]
  intro m _ hnull
  have hfilter := (Option.filter_eq_some_iff.mp hnull).2
  cases hfilter

theorem IsReported.withoutNulls (hr : r.IsReported) :
  r.withoutNulls.IsReported
  where
    nSources_lt := hr.nSources_lt
    setSize_lt := hr.setSize_lt
    joinSize_lt := hr.joinSize_lt
    rep_lt := hr.rep_lt
    ordered := List.pairwise_map.mpr hr.ordered
    reported := by
      rw [ResultRecord.withoutNulls, List.forall_mem_map]
      intro m hm v hv
      exact hr.reported m hm v (Option.filter_eq_some_iff.mp hv).1

/-! ### Emitting and reading -/

/-- Sinks that accept a record hold it as one line.  With its end or without, the line is read as
the record if no unit reported `null` and no statistics nest more than 125 brackets.  A unit that
reported `null` is read as one that reported nothing, and where statistics nest deeper the brackets
of the line are too many to be read. -/
theorem emit_then_parse (hr : r.IsReported) :
  ∃ line : String,
    (∀ sinks : Sinks, (∀ sink ∈ sinks, sink.Accepts 1) →
      sinks.emit r = (sinks.map (Sink.holding [line]), .ok ()))
    ∧ '\n' ∉ line.toList ∧ '\r' ∉ line.toList
    ∧ ∀ ending ∈ ["", "\n"],
      ((∀ m ∈ r.nodesStats, ∀ v ∈ m.2, v ≠ .null ∧ v.depth ≤ 125) →
        ResultRecord.parse (line ++ ending) = .ok r)
      ∧ ((∀ m ∈ r.nodesStats, ∀ v ∈ m.2, v.depth ≤ 125) →
        ResultRecord.parse (line ++ ending) = .ok r.withoutNulls)
      ∧ ((∃ m ∈ r.nodesStats, ∃ v ∈ m.2, 125 < v.depth) →
        ∃ left, ResultRecord.parse (line ++ ending)
          = .error (.json (Fault.message ⟨.nestedTooDeep, left⟩ (line ++ ending))))
  := by
  have hline := isOneLine_jsonText r
  have hblank : ∀ ending ∈ ["", "\n"], ∀ c ∈ ending.toList, isSpace c = true := by
    simp [isSpace]
  refine ⟨r.jsonText, ?_, hline.lineFeed_notMem, hline.carriageReturn_notMem, ?_⟩
  · intro sinks hsinks
    exact Sinks.put_of_accepts hsinks r.jsonText
  · intro ending hending
    refine ⟨?_, ?_, ?_⟩
    · intro hplain
      apply parse_jsonText hr _ _ (hblank ending hending)
      · exact fun m hm hnull => (hplain m hm .null hnull).1 rfl
      · exact fun m hm v hv => (hplain m hm v hv).2
    · intro hroom
      rw [← jsonText_withoutNulls]
      apply parse_jsonText hr.withoutNulls (withoutNulls_ne_null r) _ (hblank ending hending)
      rw [withoutNulls, List.forall_mem_map]
      intro m hm v hv
      exact hroom m hm v (Option.filter_eq_some_iff.mp hv).1
    · rintro ⟨m, hm, v, hv, hdeep⟩
      have hkept : v.isNull = false := by
        cases v with
        | null => cases hdeep
        | _ => rfl
      have hv' : v ∈ m.2.filter (! ·.isNull) := by
        apply Option.filter_eq_some_iff.mpr
        exact ⟨hv, by rw [hkept]; rfl⟩
      rw [← jsonText_withoutNulls]
      exact exists_parse_jsonText_eq_error hr.withoutNulls (withoutNulls_ne_null r)
        (List.mem_map_of_mem hm) hv' hdeep ending


theorem emit_then_parse_usual :
  let r : ResultRecord :=
    ⟨2, 10, 8, 0, [("helper", none), ("receiver", some (.object
      [("note", .text "two\nlines"), ("sent", .int 18446744073709551615)]))]⟩
  r.IsReported ∧ ∃ line : String,
    Sinks.emit r [Sink.empty] = ([Sink.empty.holding [line]], .ok ())
    ∧ '\n' ∉ line.toList ∧ '\r' ∉ line.toList ∧ ResultRecord.parse (line ++ "\n") = .ok r
  := by
  intro r
  have hstats : ∀ m ∈ r.nodesStats, ∀ v ∈ m.2,
      v.Every IsPlain ∧ v ≠ .null ∧ v.depth ≤ 125 := by
    have hnote : (Json.text "two\nlines").Every IsPlain := .leaf rfl ⟨trivial, by simp [IsExact]⟩
    have hsent : (Json.int 18446744073709551615).Every IsPlain :=
      .leaf rfl ⟨by simp [IsCanonical, Fits], by simp [IsExact]⟩
    have hself : (Json.object
        [("note", .text "two\nlines"), ("sent", .int 18446744073709551615)]).IsPlain :=
      ⟨by rw [IsCanonical]; decide, by simp [IsExact]⟩
    have hreceiver := Every.intro hself (by simp [parts, hnote, hsent])
    simp [r, hreceiver, depth, membersDepth]
  have hr : r.IsReported := by
    apply isReported_of_every (by decide) (by decide)
    exact fun m hm v hv => ⟨(hstats m hm v hv).1, (hstats m hm v hv).2.2.trans (by decide)⟩
  obtain ⟨line, hemit, hfeed, hreturn, hread⟩ := emit_then_parse hr
  refine ⟨hr, line, ?_, hfeed, hreturn, ?_⟩
  · exact hemit [Sink.empty] (List.forall_mem_singleton.mpr (Sink.accepts_empty 1))
  · exact (hread "\n" (by decide)).1 fun m hm v hv => (hstats m hm v hv).2

/-- Lists inside one another. -/
def nested : Nat → Json
  | 0 => .list []
  | n + 1 => .list [nested n]

theorem every_nested (n : Nat) :
  (nested n).Every IsPlain
  := by
  induction n with
  | zero => exact .leaf rfl ⟨trivial, by simp [nested, IsExact]⟩
  | succ n ih => exact .intro ⟨trivial, by simp [nested, IsExact]⟩ (by simp [nested, parts, ih])

theorem nested_ne_null (n : Nat) :
  nested n ≠ .null
  := by
  cases n <;> simp [nested]

theorem depth_nested (n : Nat) :
  (nested n).depth = n + 1
  := by
  induction n with
  | zero => rfl
  | succ n ih => simp [nested, depth, itemsDepth, ih]

/-- A unit can report lists that nest too deep for the record, and `null`. -/
theorem exists_isReported_parse_ne :
  (let r : ResultRecord := ⟨2, 10, 8, 0, [("helper", some (nested 125))]⟩;
    r.IsReported ∧ Sinks.emit r [Sink.empty] = ([Sink.empty.holding [r.jsonText]], .ok ())
      ∧ ResultRecord.parse (r.jsonText ++ "\n") ≠ .ok r)
  ∧ (let r : ResultRecord := ⟨2, 10, 8, 0, [("helper", some .null)]⟩;
    r.IsReported ∧ Sinks.emit r [Sink.empty] = ([Sink.empty.holding [r.jsonText]], .ok ())
      ∧ ResultRecord.parse (r.jsonText ++ "\n") ≠ .ok r)
  := by
  have hsinks : ∀ sink ∈ [Sink.empty], sink.Accepts 1 :=
    List.forall_mem_singleton.mpr (Sink.accepts_empty 1)
  constructor
  · intro r
    have hr : r.IsReported := by
      apply isReported_of_every (by decide) (by simp [r])
      simp [r, every_nested, depth_nested, maxNesting]
    refine ⟨hr, Sinks.put_of_accepts hsinks _, ?_⟩
    obtain ⟨left, hparse⟩ := exists_parse_jsonText_eq_error hr (by simp [r, nested_ne_null])
      (List.mem_singleton_self _) rfl (by simp [depth_nested, statsRoom, maxNesting]) "\n"
    rw [hparse]
    simp
  · intro r
    have hr : r.IsReported := by
      apply isReported_of_every (by decide) (by simp [r])
      have hnull : Json.null.Every IsPlain := .leaf rfl ⟨trivial, by simp [IsExact]⟩
      simp [r, hnull, depth]
    refine ⟨hr, Sinks.put_of_accepts hsinks _, ?_⟩
    rw [← jsonText_withoutNulls, parse_jsonText hr.withoutNulls (withoutNulls_ne_null r)]
    · simp [r, withoutNulls, isNull]
    · simp [r, withoutNulls, isNull]
    · simp [isSpace]

end ResultRecord

end JoinBench
