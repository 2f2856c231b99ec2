import JoinBench.Proofs.Benchmark.Actions
import JoinBench.Proofs.Benchmark.Point
import JoinBench.Proofs.Output
import JoinBench.Proofs.World.Requests

/-!
# Grids of experiments

A grid runs its experiments in order up to the first that ends the run or whose record some sink
refuses, and makes no request beyond those of the experiments that it ran.  What every sink holds
then follows from the records of these experiments.  The hosts may be anything that is there: an
experiment always ends, also on hosts that go down.
-/

namespace JoinBench

open Host Manager Sinks Text

/-! ### Hosts that are there -/

theorem Fabric.IsIn.of_resumes {fabric : Fabric} {w w' : World Cluster} (h : fabric.IsIn w)
    (hresumes : w.Resumes w') :
  fabric.IsIn w'
  where
    deadline_eq := hresumes.deadline_eq.trans h.deadline_eq
    isThere := by
      simp only [World.scene, hresumes.hosts_eq]
      exact h.isThere

namespace Benchmark

variable {b : Benchmark} {w w' w'' : World Cluster} {point : Point} {points : List Point}

/-- An experiment ends on any hosts, and writes nothing to the sinks. -/
theorem exists_performs_runPoint (h : b.fabric.IsIn w) (point : Point) :
  ∃ asked r w', w.Performs (b.runPoint point) asked r w' ∧ b.fabric.IsIn w' ∧ w'.sinks = w.sinks
  := by
  have hwithin : (b.runPoint point).Makes (Action.IsWithin b.fabric) := by
    apply makes_runPoint
    intro m hmanager action haction
    rw [← (manages_of_manager hmanager).fabric_eq]
    exact haction.isWithin
  obtain ⟨r, w', hrun, h', hsinks⟩ := h.exists_run hwithin
  exact ⟨_, r, w', ⟨hrun, rfl⟩, h', hsinks⟩

end Benchmark

/-! ### What a grid did -/

/-- An experiment of a grid that was run: the surroundings in which it was run, the requests that
it made, its result and the surroundings behind it. -/
structure Visit where
  point : Point
  before : World Cluster
  asked : List (HostId × Request)
  result : Except Error ResultRecord
  after : World Cluster

namespace Visit

/-- The line of the record, if there is a record. -/
def line? (v : Visit) : Option String :=
  v.result.toOption.map ResultRecord.jsonText

/-- The number of the point, if its error only spoils this point. -/
def abandoned? (v : Visit) : Option Nat :=
  match v.result with
  | .ok _ => none
  | .error e => if e.isPointScoped then some v.point.number else none

/-- The grid goes on behind the experiment, as far as its result is concerned. -/
def IsPassed (v : Visit) : Prop :=
  ∀ e, v.result = .error e → e.isPointScoped = true

/-- The lines of the records of some experiments. -/
def lines (visits : List Visit) : List String :=
  visits.filterMap line?

end Visit

/-- The experiments were run one after the other, each in the surroundings that the one before it
left, up to the log and the sinks. -/
inductive Benchmark.Visits (b : Benchmark) : World Cluster → List Visit → World Cluster → Prop where
  | nil {w w' : World Cluster} (h : w.Resumes w') : Visits b w [] w'
  | cons {w w' : World Cluster} {v : Visit} {visits : List Visit} (h : w.Resumes v.before)
    (hperforms : v.before.Performs (b.runPoint v.point) v.asked v.result v.after)
    (hrest : Visits b v.after visits w') : Visits b w (v :: visits) w'

/-- Where a grid stops. -/
inductive Stop where
  /-- All points are through. -/
  | finished
  /-- The error of an experiment ends the run. -/
  | spoiled
  /-- The sink at a position refuses the line of a record in a step. -/
  | unwritten (line : String) (position : Nat) (step : Sink.Step)

/-- The lines that the sink at a position holds of the point at which a grid stops. -/
def Stop.lines : Stop → Nat → List String
  | finished, _ | spoiled, _ => []
  | unwritten line refused step, position =>
    if position < refused ∨ position = refused ∧ step = .flush then [line] else []

/-- What the sink at a position holds of that point without a line feed behind it. -/
def Stop.openText : Stop → Nat → String
  | finished, _ | spoiled, _ => ""
  | unwritten line refused step, position =>
    if position = refused ∧ step = .lineFeed then line else ""

/-- How a grid of points ends with the given sinks: the experiments that were run, those of them
that were through when it stopped, where it stops, the result, and the sinks behind it. -/
inductive GridEnds (points : List Point) (sinks : Sinks) (visits : List Visit) :
    List Visit → Stop → Except Error GridSummary → Sinks → Prop where
  /-- All points were run, and all sinks accepted all records. -/
  | finished (hpoints : visits.map Visit.point = points) (hpassed : ∀ v ∈ visits, v.IsPassed)
    (haccepts : ∀ sink ∈ sinks, sink.Accepts (Visit.lines visits).length) :
    GridEnds points sinks visits visits .finished
      (.ok ⟨(Visit.lines visits).length, visits.filterMap Visit.abandoned?⟩)
      (sinks.map (Sink.holding (Visit.lines visits)))
  /-- The last experiment that was run has an error that ends the run. -/
  | spoiled {front : List Visit} {last : Visit} {e : Error} (hvisits : visits = front ++ [last])
    (hpoints : visits.map Visit.point <+: points) (hpassed : ∀ v ∈ front, v.IsPassed)
    (haccepts : ∀ sink ∈ sinks, sink.Accepts (Visit.lines front).length)
    (hlast : last.result = .error e) (hscope : e.isPointScoped = false) :
    GridEnds points sinks visits front .spoiled (.error e)
      (sinks.map (Sink.holding (Visit.lines front)))
  /-- A sink refuses the record of the last experiment that was run. -/
  | unwritten {front : List Visit} {last : Visit} {record : ResultRecord} {ahead behind : Sinks}
    {sink sink' : Sink} {step : Sink.Step} {e : Error} (hvisits : visits = front ++ [last])
    (hpoints : visits.map Visit.point <+: points) (hpassed : ∀ v ∈ front, v.IsPassed)
    (haccepts : ∀ sink ∈ sinks, sink.Accepts (Visit.lines front).length)
    (hlast : last.result = .ok record) (hsinks : sinks = ahead ++ sink :: behind)
    (hahead : ∀ sink ∈ ahead, sink.Accepts (Visit.lines visits).length)
    (hrefuses : (sink.holding (Visit.lines front)).Refuses record.jsonText step e sink') :
    GridEnds points sinks visits front (.unwritten record.jsonText ahead.length step) (.error e)
      (ahead.map (Sink.holding (Visit.lines visits)) ++ sink'
        :: behind.map (Sink.holding (Visit.lines front)))

/-- The summary of two runs, one behind the other; the abandoned points of the first are still in
reverse. -/
def GridSummary.followedBy (earlier later : GridSummary) : GridSummary :=
  ⟨earlier.completed + later.completed, earlier.abandoned.reverse ++ later.abandoned⟩

namespace GridEnds

variable {point : Point} {points : List Point} {v : Visit} {visits completed : List Visit}
  {record : ResultRecord} {sinks sinks' : Sinks} {stop : Stop} {r : Except Error GridSummary}

theorem lines_cons (v : Visit) (visits : List Visit) :
  Visit.lines (v :: visits) = v.line?.toList ++ Visit.lines visits
  := by
  rw [Visit.lines, List.filterMap_cons, ← Visit.lines]
  cases v.line? <;> rfl

theorem filterMap_abandoned?_cons (v : Visit) (visits : List Visit) :
  (v :: visits).filterMap Visit.abandoned?
    = v.abandoned?.toList.reverse ++ visits.filterMap Visit.abandoned?
  := by
  rw [List.filterMap_cons]
  cases v.abandoned? <;> rfl

/-- A grid behind an experiment that does not end it. -/
theorem cons
    (h : GridEnds points (sinks.map (Sink.holding v.line?.toList)) visits completed stop r sinks')
    (hpass : v.IsPassed) (haccept : ∀ sink ∈ sinks, sink.Accepts v.line?.toList.length) :
  GridEnds (v.point :: points) sinks (v :: visits) (v :: completed) stop
    (r.map (GridSummary.followedBy ⟨v.line?.toList.length, v.abandoned?.toList⟩)) sinks'
  := by
  cases h with
  | finished hpoints hpassed haccepts =>
      rw [map_holding_holding, Except.map, GridSummary.followedBy, ← List.length_append,
        ← lines_cons, ← filterMap_abandoned?_cons]
      apply finished
      · rw [List.map_cons, hpoints]
      · exact List.forall_mem_cons.mpr ⟨hpass, hpassed⟩
      · rw [lines_cons]
        exact accepts_append haccept haccepts
  | spoiled hvisits hpoints hpassed haccepts hlast hscope =>
      subst hvisits
      rw [map_holding_holding, ← lines_cons]
      apply spoiled (List.cons_append ..).symm
      · exact (List.prefix_cons_inj _).mpr hpoints
      · exact List.forall_mem_cons.mpr ⟨hpass, hpassed⟩
      · rw [lines_cons]
        exact accepts_append haccept haccepts
      · exact hlast
      · exact hscope
  | unwritten hvisits hpoints hpassed haccepts hlast hsinks hahead hrefuses =>
      subst hvisits
      obtain ⟨ahead, rest, rfl, rfl, hrest⟩ := List.map_eq_append_iff.mp hsinks
      obtain ⟨sink, behind, rfl, rfl, rfl⟩ := List.map_eq_cons_iff.mp hrest
      rw [map_holding_holding, map_holding_holding, ← lines_cons, ← lines_cons, List.length_map]
      apply unwritten (List.cons_append ..).symm
      · exact (List.prefix_cons_inj _).mpr hpoints
      · exact List.forall_mem_cons.mpr ⟨hpass, hpassed⟩
      · rw [lines_cons]
        exact accepts_append haccept haccepts
      · exact hlast
      · rfl
      · rw [lines_cons]
        apply accepts_append _ hahead
        intro sink hsink
        exact haccept sink (List.mem_append_left _ hsink)
      · rw [lines_cons, ← Sink.holding_holding]
        exact hrefuses

theorem line?_of_ok (hresult : v.result = .ok record) :
  v.line? = some record.jsonText
  := by
  rw [Visit.line?, hresult]
  rfl

theorem line?_of_error {e : Error} (hresult : v.result = .error e) :
  v.line? = none
  := by
  rw [Visit.line?, hresult]
  rfl

/-- A grid behind an experiment that is abandoned. -/
theorem cons_error {e : Error} (h : GridEnds points sinks visits completed stop r sinks')
    (hresult : v.result = .error e) (hscope : e.isPointScoped = true) :
  GridEnds (v.point :: points) sinks (v :: visits) (v :: completed) stop
    (r.map (GridSummary.followedBy ⟨0, [v.point.number]⟩)) sinks'
  := by
  have habandoned : v.abandoned? = some v.point.number := by
    simp only [Visit.abandoned?, hresult, hscope, if_true]
  rw [← map_holding_nil sinks, ← Option.toList_none, ← line?_of_error hresult] at h
  have hcons := h.cons
  rw [line?_of_error hresult, habandoned] at hcons
  apply hcons
  · intro e' he
    rw [hresult] at he
    cases he
    exact hscope
  · exact fun sink _ => sink.accepts_zero

/-- A grid behind an experiment whose record all sinks accept. -/
theorem cons_ok
    (h : GridEnds points (sinks.map (Sink.holding [record.jsonText])) visits completed stop r
      sinks')
    (hresult : v.result = .ok record) (haccept : ∀ sink ∈ sinks, sink.Accepts 1) :
  GridEnds (v.point :: points) sinks (v :: visits) (v :: completed) stop
    (r.map (GridSummary.followedBy ⟨1, []⟩)) sinks'
  := by
  have habandoned : v.abandoned? = none := by
    rw [Visit.abandoned?, hresult]
  rw [← Option.toList_some, ← line?_of_ok hresult] at h
  have hcons := h.cons
  rw [line?_of_ok hresult, habandoned] at hcons
  apply hcons
  · intro e he
    rw [hresult] at he
    cases he
  · exact haccept

/-- A grid whose first experiment ends the run. -/
theorem of_error {e : Error} (hresult : v.result = .error e) (hscope : e.isPointScoped = false)
    (points : List Point) (sinks : Sinks) :
  GridEnds (v.point :: points) sinks [v] [] .spoiled (.error e) sinks
  := by
  have hends : GridEnds (v.point :: points) sinks ([] ++ [v]) [] .spoiled _ _ :=
    .spoiled rfl (List.prefix_append [v.point] points) (List.forall_mem_nil _)
      (fun sink _ => sink.accepts_zero) hresult hscope
  rw [Visit.lines, List.filterMap_nil, map_holding_nil] at hends
  exact hends

/-- A grid with a sink that refuses the record of the first experiment. -/
theorem of_refuses {ahead behind : Sinks} {sink sink' : Sink} {step : Sink.Step} {e : Error}
    (hresult : v.result = .ok record) (hahead : ∀ sink ∈ ahead, sink.Accepts 1)
    (hrefuses : sink.Refuses record.jsonText step e sink') (points : List Point) :
  GridEnds (v.point :: points) (ahead ++ sink :: behind) [v] []
    (.unwritten record.jsonText ahead.length step) (.error e)
    (ahead.map (Sink.holding [record.jsonText]) ++ sink' :: behind)
  := by
  have hlines : Visit.lines [v] = [record.jsonText] := by
    rw [lines_cons, line?_of_ok hresult]
    rfl
  have hnone : Visit.lines [] = [] := rfl
  have hends : GridEnds (v.point :: points) (ahead ++ sink :: behind) [v] []
      (.unwritten record.jsonText ahead.length step) (.error e)
      (ahead.map (Sink.holding (Visit.lines [v])) ++ sink'
        :: behind.map (Sink.holding (Visit.lines []))) := by
    apply unwritten (List.nil_append [v]).symm
    · exact List.prefix_append [v.point] points
    · exact List.forall_mem_nil _
    · exact fun sink _ => sink.accepts_zero
    · exact hresult
    · rfl
    · rw [hlines]
      exact hahead
    · rw [hnone, Sink.holding_nil]
      exact hrefuses
  rw [hlines, hnone, map_holding_nil] at hends
  exact hends

/-- Every experiment that does not end the run has a record or is abandoned. -/
theorem length_lines_add {visits : List Visit} (h : ∀ v ∈ visits, v.IsPassed) :
  (Visit.lines visits).length + (visits.filterMap Visit.abandoned?).length = visits.length
  := by
  induction visits with
  | nil => rfl
  | cons v rest ih =>
      obtain ⟨hpass, hrest⟩ := List.forall_mem_cons.mp h
      have hone : v.line?.toList.length + v.abandoned?.toList.length = 1 := by
        rw [Visit.line?, Visit.abandoned?]
        cases hresult : v.result with
        | error e => simp [hpass e hresult, Except.toOption]
        | ok record => rfl
      rw [lines_cons, filterMap_abandoned?_cons, List.length_append, List.length_append,
        List.length_reverse, List.length_cons, ← ih hrest]
      omega

/-- All points of a grid that finishes are counted. -/
theorem completed_add_length {summary : GridSummary}
    (h : GridEnds points sinks visits completed stop (.ok summary) sinks') :
  summary.completed + summary.abandoned.length = points.length
  := by
  cases h with
  | finished hpoints hpassed => rw [length_lines_add hpassed, ← hpoints, List.length_map]

end GridEnds

/-! ### What sinks hold behind a grid -/

/-- What the sinks hold behind a grid that had them before it, came through some experiments and
stopped. -/
structure HoldRecords (sinks sinks' : Sinks) (completed : List Visit) (stop : Stop) : Prop where
  length_eq : sinks'.length = sinks.length
  /-- Behind what it held before, every sink holds the lines of these experiments in order.  If
  the line of a further point could not be written, the sinks in front of the one that refused it
  hold that line as well, and the one that refused it holds it just if it was the flush that
  failed. -/
  content_eq : ∀ (i : Nat) (sink sink' : Sink), sinks[i]? = some sink → sinks'[i]? = some sink' →
    sink'.content = sink.content
      ++ String.join ((Visit.lines completed ++ stop.lines i).map (· ++ "\n")) ++ stop.openText i
  /-- In a sink that was empty, these and no others are the lines that end in a line feed. -/
  endedLines_eq : ∀ (i : Nat) (sink sink' : Sink), sinks[i]? = some sink →
    sinks'[i]? = some sink' → sink.content = "" →
    endedLines (bytes sink'.content) = (Visit.lines completed ++ stop.lines i).map bytes
  /-- Where a write that fails stores nothing of its line, nothing else is there. -/
  openText_eq : ∀ (i : Nat) (sink : Sink), sinks[i]? = some sink → sink.StoresWhole →
    stop.openText i = ""

theorem Visit.lineFeed_notMem_lines (visits : List Visit) :
  ∀ line ∈ Visit.lines visits, 10 ∉ bytes line
  := by
  intro line hline
  obtain ⟨v, -, hv⟩ := List.mem_filterMap.mp hline
  obtain ⟨record, -, rfl⟩ := Option.map_eq_some_iff.mp hv
  exact record.lineFeed_notMem_bytes

/-- No line feed stands in the texts of a stop. -/
def Stop.IsOneLine : Stop → Prop
  | finished | spoiled => True
  | unwritten line _ _ => 10 ∉ bytes line

theorem Stop.IsOneLine.lines {stop : Stop} (h : stop.IsOneLine) (i : Nat) :
  ∀ line ∈ stop.lines i, 10 ∉ bytes line
  := by
  cases stop with
  | finished | spoiled => exact List.forall_mem_nil _
  | unwritten line refused step =>
      rw [Stop.lines]
      split_ifs
      · exact List.forall_mem_singleton.mpr h
      · exact List.forall_mem_nil _

theorem Stop.IsOneLine.openText {stop : Stop} (h : stop.IsOneLine) (i : Nat) :
  10 ∉ bytes (stop.openText i)
  := by
  cases stop with
  | finished | spoiled => exact List.not_mem_nil
  | unwritten line refused step =>
      rw [Stop.openText]
      split_ifs
      · exact h
      · exact List.not_mem_nil

namespace GridEnds

variable {points : List Point} {visits completed front : List Visit} {last : Visit}
  {record : ResultRecord} {sinks sinks' ahead behind : Sinks} {sink sink' other other' : Sink}
  {stop : Stop} {r : Except Error GridSummary} {lines : List String} {step : Sink.Step} {e : Error}
  {i : Nat}

theorem content_eq_of_map (hsink : sinks[i]? = some sink)
    (hsink' : (sinks.map (Sink.holding lines))[i]? = some sink') :
  sink'.content = sink.content ++ String.join (lines.map (· ++ "\n"))
  := by
  rw [List.getElem?_map, hsink] at hsink'
  cases hsink'
  rfl

/-- What the sinks hold where one of them refuses a line. -/
theorem content_eq_of_refuses (hlast : last.result = .ok record)
    (hrefuses : (other.holding (Visit.lines front)).Refuses record.jsonText step e other')
    (hsink : (ahead ++ other :: behind)[i]? = some sink)
    (hsink' : (ahead.map (Sink.holding (Visit.lines (front ++ [last]))) ++ other'
      :: behind.map (Sink.holding (Visit.lines front)))[i]? = some sink') :
  sink'.content = sink.content
    ++ String.join ((Visit.lines front
      ++ (Stop.unwritten record.jsonText ahead.length step).lines i).map (· ++ "\n"))
    ++ (Stop.unwritten record.jsonText ahead.length step).openText i
  := by
  have hlines : Visit.lines (front ++ [last]) = Visit.lines front ++ [record.jsonText] := by
    rw [Visit.lines, List.filterMap_append, List.filterMap_cons, line?_of_ok hlast]
    rfl
  have hlength : (ahead.map (Sink.holding (Visit.lines (front ++ [last])))).length
    = ahead.length := List.length_map _
  rw [Stop.lines, Stop.openText]
  obtain hlt | rfl | hgt := Nat.lt_trichotomy i ahead.length
  · rw [List.getElem?_append_left hlt] at hsink
    rw [List.getElem?_append_left (hlt.trans_eq hlength.symm)] at hsink'
    rw [content_eq_of_map hsink hsink', hlines, if_pos (.inl hlt),
      if_neg (fun h => hlt.ne h.1), String.append_empty]
  · rw [List.getElem?_append_right (Nat.le_refl _), Nat.sub_self] at hsink
    rw [List.getElem?_append_right (Nat.le_of_eq hlength), hlength, Nat.sub_self] at hsink'
    cases hsink
    cases hsink'
    cases hrefuses <;> simp [Sink.holding, String.append_assoc, String.join_append]
  · obtain ⟨j, rfl⟩ := Nat.exists_eq_add_of_lt hgt
    have hj : ahead.length + j + 1 - ahead.length = j + 1 := by omega
    rw [List.getElem?_append_right (Nat.le_of_lt hgt), hj] at hsink
    rw [List.getElem?_append_right (hlength.le.trans (Nat.le_of_lt hgt)), hlength, hj] at hsink'
    rw [if_neg (fun h => h.elim hgt.not_gt fun h => hgt.ne' h.1), if_neg (fun h => hgt.ne' h.1),
      List.append_nil, String.append_empty]
    exact content_eq_of_map hsink hsink'

/-- The sinks hold the lines of the completed points, whatever step refuses a line. -/
theorem content_eq (h : GridEnds points sinks visits completed stop r sinks')
    (hsink : sinks[i]? = some sink) (hsink' : sinks'[i]? = some sink') :
  sink'.content = sink.content
    ++ String.join ((Visit.lines completed ++ stop.lines i).map (· ++ "\n")) ++ stop.openText i
  := by
  cases h with
  | finished | spoiled =>
      rw [content_eq_of_map hsink hsink', Stop.lines, Stop.openText, List.append_nil,
        String.append_empty]
  | unwritten hvisits _ _ _ hlast hsinks _ hrefuses =>
      subst hvisits hsinks
      exact content_eq_of_refuses hlast hrefuses hsink hsink'

theorem isOneLine (h : GridEnds points sinks visits completed stop r sinks') :
  stop.IsOneLine
  := by
  cases h with
  | finished | spoiled => trivial
  | unwritten => exact ResultRecord.lineFeed_notMem_bytes _

theorem holdRecords (h : GridEnds points sinks visits completed stop r sinks') :
  HoldRecords sinks sinks' completed stop
  where
    length_eq := by
      cases h with
      | finished | spoiled => exact List.length_map _
      | unwritten _ _ _ _ _ hsinks =>
          simp only [hsinks, List.length_append, List.length_map, List.length_cons]
    content_eq := by
      intro i sink sink' hsink hsink'
      exact h.content_eq hsink hsink'
    endedLines_eq := by
      intro i sink sink' hsink hsink' hempty
      rw [h.content_eq hsink hsink', hempty, String.empty_append, bytes_append, bytes_join]
      apply endedLines_ended_append
      · rw [List.forall_mem_map, List.forall_mem_append]
        exact ⟨Visit.lineFeed_notMem_lines completed, h.isOneLine.lines i⟩
      · exact h.isOneLine.openText i
    openText_eq := by
      intro i sink hsink hwhole
      cases h with
      | finished | spoiled => rfl
      | unwritten _ _ _ _ _ hsinks _ hrefuses =>
          rw [Stop.openText, if_neg]
          rintro ⟨rfl, hstep⟩
          rw [hsinks, List.getElem?_append_right (Nat.le_refl _), Nat.sub_self] at hsink
          cases hsink
          exact hrefuses.ne_lineFeed hwhole hstep

end GridEnds

/-! ### The run of a grid -/

namespace Benchmark

variable {b : Benchmark} {w w' w'' : World Cluster} {visits : List Visit}

theorem Visits.after (h : b.Visits w visits w') (hresumes : w'.Resumes w'') :
  b.Visits w visits w''
  := by
  induction h with
  | nil h => exact .nil (h.trans hresumes)
  | cons h hperforms _ ih => exact .cons h hperforms (ih hresumes)

theorem Visits.before (hresumes : w.Resumes w') (h : b.Visits w' visits w'') :
  b.Visits w visits w''
  := by
  cases h with
  | nil h => exact .nil (hresumes.trans h)
  | cons h hperforms hrest => exact .cons (hresumes.trans h) hperforms hrest

/-- An experiment can be visited on any hosts. -/
theorem exists_visit (h : b.fabric.IsIn w) (point : Point) :
  ∃ v : Visit, v.point = point ∧ v.before = w
    ∧ w.Performs (b.runPoint point) v.asked v.result v.after
    ∧ b.fabric.IsIn v.after ∧ v.after.sinks = w.sinks
  := by
  obtain ⟨asked, r, w', hperforms, h', hsinks⟩ := exists_performs_runPoint h point
  exact ⟨⟨point, w, asked, r, w'⟩, rfl, rfl, hperforms, h', hsinks⟩

/-- Summaries are put together in the order of the runs. -/
theorem followedBy_followedBy (summary later : GridSummary) (completed : Nat)
    (abandoned : List Nat) :
  GridSummary.followedBy ⟨summary.completed + completed, abandoned ++ summary.abandoned⟩ later
    = summary.followedBy (GridSummary.followedBy ⟨completed, abandoned⟩ later)
  := by
  simp only [GridSummary.followedBy, Nat.add_assoc, List.reverse_append, List.append_assoc]

theorem map_followedBy (summary : GridSummary) (completed : Nat) (abandoned : List Nat)
    (r : Except Error GridSummary) :
  r.map (GridSummary.followedBy ⟨summary.completed + completed, abandoned ++ summary.abandoned⟩)
    = (r.map (GridSummary.followedBy ⟨completed, abandoned⟩)).map summary.followedBy
  := by
  cases r with
  | error e => rfl
  | ok later => exact congrArg Except.ok (followedBy_followedBy summary later completed abandoned)

/-- From any point of a grid on, the points that are left end as a grid of their own does. -/
theorem exists_performs_runPoints (h : b.fabric.IsIn w) (points : List Point)
    (summary : GridSummary) :
  ∃ visits completed stop r w', w.Performs (b.runPoints points summary)
      (visits.flatMap Visit.asked) (r.map summary.followedBy) w'
    ∧ b.Visits w visits w' ∧ GridEnds points w.sinks visits completed stop r w'.sinks
  := by
  induction points generalizing w summary with
  | nil =>
      refine ⟨[], [], .finished, .ok ⟨0, []⟩, w, ?_, .nil (.refl w), ?_⟩
      · rw [Except.map, GridSummary.followedBy, List.append_nil]
        apply World.performs_pure
      · have hends : GridEnds [] w.sinks [] [] .finished _ _ :=
          .finished rfl (List.forall_mem_nil _) (fun sink _ => sink.accepts_zero)
        rw [Visit.lines, List.filterMap_nil, map_holding_nil] at hends
        exact hends
  | cons point rest ih =>
      obtain ⟨w₁, hlog, hresumes, hsinks₁⟩ := w.exists_performs_log .info
        ("======= starting experiment #" ++ point.number.repr ++ " " ++ point.display ++ " =======")
      obtain ⟨v, rfl, rfl, hpoint, h₂, hsinks₂⟩ := exists_visit (h.of_resumes hresumes) point
      rw [hsinks₁] at hsinks₂
      have hvisit : ∀ {visits w'}, b.Visits v.after visits w' → b.Visits w (v :: visits) w' :=
        fun hrest => .cons hresumes hpoint hrest
      cases hresult : v.result with
      | error e =>
          rw [hresult] at hpoint
          cases hscope : e.isPointScoped with
          | false =>
              refine ⟨_, [], .spoiled, .error e, v.after, ?_, hvisit (.nil (.refl _)), ?_⟩
              · apply hlog.bind
                apply hpoint.attempt.bind
                simp only [hscope, Bool.false_eq_true, if_false]
                apply World.performs_throw
              · rw [hsinks₂]
                exact .of_error hresult hscope rest w.sinks
          | true =>
              obtain ⟨w₃, hlog', hresumes', hsinks₃⟩ := v.after.exists_performs_log .error
                ("Experiment #" ++ v.point.number.repr ++ " abandoned: " ++ e.message)
              obtain ⟨visits, completed, stop, r, w', hrest, hvisits, hends⟩ :=
                ih (h₂.of_resumes hresumes')
                  ⟨summary.completed + 0, [v.point.number] ++ summary.abandoned⟩
              rw [hsinks₃, hsinks₂] at hends
              refine ⟨_, _, stop, _, w', ?_, hvisit (hvisits.before hresumes'),
                hends.cons_error hresult hscope⟩
              rw [← map_followedBy]
              apply hlog.bind
              apply hpoint.attempt.bind
              simp only [hscope, if_true]
              exact hlog'.bind hrest
      | ok record =>
          rw [hresult] at hpoint
          obtain ⟨w₃, hlog', hresumes', hsinks₃⟩ := v.after.exists_performs_log .info
            ("Stats of experiment #" ++ v.point.number.repr ++ ": " ++ statsShown record.nodesStats)
          obtain ⟨w₄, hemit, hresumes'', hsinks₄⟩ := w₃.exists_performs_emit record
          have hbehind := hresumes'.trans hresumes''
          rw [hsinks₃, hsinks₂, emit] at hemit hsinks₄
          obtain ⟨haccept, hput⟩ | ⟨ahead, sink, behind, step, e, sink', heq, hahead, hrefuses,
            hput⟩ := put_cases record.jsonText w.sinks
          · rw [hput] at hemit hsinks₄
            obtain ⟨visits, completed, stop, r, w', hrest, hvisits, hends⟩ :=
              ih (h₂.of_resumes hbehind) ⟨summary.completed + 1, [] ++ summary.abandoned⟩
            rw [hsinks₄] at hends
            refine ⟨_, _, stop, _, w', ?_, hvisit (hvisits.before hbehind),
              hends.cons_ok hresult haccept⟩
            rw [← map_followedBy]
            apply hlog.bind
            apply hpoint.attempt.bind
            apply hlog'.bind
            exact hemit.bind hrest
          · rw [hput] at hemit hsinks₄
            refine ⟨_, [], .unwritten record.jsonText ahead.length step, .error e, w₄, ?_,
              hvisit (.nil hbehind), ?_⟩
            · apply hlog.bind
              apply hpoint.attempt.bind
              apply hlog'.bind
              exact hemit.bind_error
            · rw [hsinks₄, heq]
              exact .of_refuses hresult hahead hrefuses rest

/-- On hosts that are there a grid ends, and makes no requests but those of the experiments that it
ran.  It runs the points in order up to the first that ends the run or whose record a sink refuses,
whichever of the writes to a sink fail.  The sinks hold the lines of the points that were completed;
only where a record could not be written do the sinks in front of the one that refused it hold its
line as well, and the one that refused it holds that line just if it was the flush that failed.
Where the line feed alone was refused, its text stands there without one.  Where the grid yields a
summary, all points are counted in it. -/
theorem run_runGrid (h : b.fabric.IsIn w) (points : List Point) :
  ∃ visits completed stop r w', w.Performs (b.runGrid points) (visits.flatMap Visit.asked) r w'
    ∧ b.Visits w visits w' ∧ GridEnds points w.sinks visits completed stop r w'.sinks
    ∧ HoldRecords w.sinks w'.sinks completed stop
    ∧ ∀ summary, r = .ok summary → summary.completed + summary.abandoned.length = points.length
  := by
  obtain ⟨w₁, hlog, hresumes, hsinks₁⟩ :=
    w.exists_performs_log .info (points.length.repr ++ " experiments to run")
  obtain ⟨visits, completed, stop, r, w₂, hrun, hvisits, hends⟩ :=
    exists_performs_runPoints (h.of_resumes hresumes) points ⟨0, []⟩
  rw [hsinks₁] at hends
  cases r with
  | error e =>
      refine ⟨visits, completed, stop, .error e, w₂, ?_, hvisits.before hresumes, hends,
        hends.holdRecords, ?_⟩
      · apply hlog.bind
        exact hrun.bind_error
      · rintro summary ⟨⟩
  | ok summary =>
      have hsummary : (GridSummary.mk 0 []).followedBy summary = summary := by
        rw [GridSummary.followedBy, Nat.zero_add]
        rfl
      rw [Except.map, hsummary] at hrun
      obtain ⟨w₃, hlog', hresumes', hsinks₃⟩ := w₂.exists_performs_log .info
        ("Grid finished, " ++ summary.completed.repr ++ " records written, "
          ++ summary.abandoned.length.repr ++ " points abandoned")
      rw [← hsinks₃] at hends
      refine ⟨visits, completed, stop, .ok summary, w₃, ?_,
        (hvisits.after hresumes').before hresumes, hends, hends.holdRecords, ?_⟩
      · rw [← List.append_nil (visits.flatMap Visit.asked)]
        apply hlog.bind
        apply hrun.bind
        apply hlog'.bind
        apply World.performs_pure
      · rintro _ ⟨⟩
        exact hends.completed_add_length

/-- A sink whose second flush fails. -/
def fullSink : Sink :=
  { Sink.empty with flushFault := fun n => if n = 1 then some "full" else none }

/-- The usual surroundings with that sink between two that never fail. -/
def fullWorld : World Cluster :=
  { usualWorld with sinks := [.empty, fullSink, .empty] }

/-- Experiments of which the second cannot be managed and the last is not reached. -/
def fullPoints : List Point :=
  [⟨0, 2, 2, 0, 0⟩, ⟨1, 0, 2, 0, 0⟩, ⟨2, 2, 2, 0, 1⟩, ⟨3, 2, 2, 0, 2⟩]

/-- The line of a record without statistics. -/
def silentLine (rep : Nat) : String :=
  ResultRecord.jsonText
    ⟨2, 2, 0, rep, [("helper", none), ("receiver", none), ("source_0", none)]⟩

/-- The line that cannot be flushed is in the first sink and in the second, and not in the third. -/
theorem run_runGrid_full :
  ∃ visits completed stop w', fullWorld.Performs (usual.runGrid fullPoints)
      (visits.flatMap Visit.asked) (.error (.io "full")) w'
    ∧ usual.Visits fullWorld visits w'
    ∧ GridEnds fullPoints fullWorld.sinks visits completed stop (.error (.io "full")) w'.sinks
    ∧ HoldRecords fullWorld.sinks w'.sinks completed stop
    ∧ w'.sinks.map Sink.content = [silentLine 0 ++ "\n" ++ silentLine 1 ++ "\n",
      silentLine 0 ++ "\n" ++ silentLine 1 ++ "\n", silentLine 0 ++ "\n"]
  := by
  have hin : usual.fabric.IsIn fullWorld := ⟨rfl, isReadyIn_usualWorld.isIn.isThere⟩
  have hrun : (World.run Cluster.layer (usual.runGrid fullPoints) fullWorld).1
        = some (.error (.io "full"))
      ∧ (World.run Cluster.layer (usual.runGrid fullPoints) fullWorld).2.sinks.map Sink.content
        = [silentLine 0 ++ "\n" ++ silentLine 1 ++ "\n",
          silentLine 0 ++ "\n" ++ silentLine 1 ++ "\n", silentLine 0 ++ "\n"] := by
    decide +kernel
  obtain ⟨visits, completed, stop, r, w', hperforms, hvisits, hends, hholds, -⟩ :=
    run_runGrid hin fullPoints
  rw [hperforms.run_eq] at hrun
  obtain ⟨⟨⟩, hcontents⟩ := hrun
  exact ⟨visits, completed, stop, w', hperforms, hvisits, hends, hholds, hcontents⟩

end Benchmark

end JoinBench
