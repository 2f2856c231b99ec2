import JoinBench.Benchmark
import JoinBench.Proofs.Lifecycle.Actions

/-!
# What experiments do

An experiment does what the operations of its manager do and nothing else: once the protocol has
started it only tends units, all its requests go to hosts of the fabric, and it never writes a
record.
-/

namespace JoinBench

open Program Manager

namespace Benchmark

section Tending

variable (m : Manager)

theorem tends_echoPieces (pieces : List (Except Error String)) :
  (echoPieces pieces).Makes m.Tends
  := by
  induction pieces with
  | nil => apply makes_pure
  | cons piece rest ih =>
      cases piece with
      | error e => apply tends_log
      | ok text =>
          apply makes_bind
          · apply makes_forEach
            intro line
            exact makes_perform (.own trivial)
          · intro _
            exact ih

theorem tends_echoHelper (helper : UnitHandle) :
  (echoHelper m helper).Makes m.Tends
  := by
  apply makes_bind
  · apply makes_attempt
    apply m.tends_follow
  · intro pieces
    cases pieces with
    | error e => apply tends_log
    | ok pieces => apply tends_echoPieces

theorem tends_awaitResult (helper receiver : UnitHandle) (sources : List UnitHandle)
    (started : Nat) :
  (awaitResult m helper receiver sources started).Makes m.Tends
  := by
  have hrest : Makes m.Tends (do
      m.ensureSuccess receiver
      let ended ← Job.now
      Job.log .info
        ("Done in " ++ secondsText (ended - started) ++ " seconds, checking results...")
      let _ ← Program.all (sources.map m.ensureSuccess) : Job Unit) := by
    apply makes_bind
    · apply m.tends_ensureSuccess
    intro _
    apply makes_bind
    · exact makes_perform (.own trivial)
    intro ended
    apply makes_bind
    · apply tends_log
    intro _
    apply makes_bind
    · apply makes_all
      intro job hjob
      obtain ⟨unit, -, rfl⟩ := List.mem_map.mp hjob
      apply m.tends_ensureSuccess
    · intro _
      apply makes_pure
  apply makes_bind
  · apply tends_echoHelper
  intro _
  apply makes_bind
  · apply m.tends_wait
  intro status
  simp only
  split_ifs
  · apply makes_bind
    · apply tends_log
    · intro _
      exact hrest
  · exact hrest

theorem tends_checkResult (point : Point) (receiver : UnitHandle) :
  (checkResult m point receiver).Makes m.Tends
  := by
  apply makes_bind
  · apply m.tends_logs
  intro output
  apply makes_bind
  · apply makes_ofExcept
  intro expected
  split
  · apply tends_log
  · apply makes_bind
    · apply tends_log
    intro _
    apply makes_bind
    · apply tends_log
    · intro _
      apply makes_throw

theorem tends_unitStats (unit : UnitHandle) :
  (unitStats m unit).Makes m.Tends
  := by
  apply makes_bind
  · apply makes_attempt
    apply m.tends_logs
  intro output
  cases output with
  | ok text =>
      apply makes_bind
      · apply makes_forEach
        intro line
        exact makes_perform (.own trivial)
      · intro _
        apply makes_pure
  | error e =>
      apply makes_bind
      · apply tends_log
      · intro _
        apply makes_pure

theorem tends_collectStats (units : List UnitHandle) (found : List (String × Option Json)) :
  (collectStats m units found).Makes m.Tends
  := by
  induction units generalizing found with
  | nil => apply makes_pure
  | cons unit rest ih =>
      apply makes_bind
      · apply tends_unitStats
      · intro stats
        apply ih

theorem tends_cleanUp (point : Point) :
  (cleanUp m point).Makes m.Tends
  := by
  apply makes_bind
  · apply makes_attempt
    apply m.tends_cleanAll
  · intro removed
    cases removed with
    | ok n => apply makes_pure
    | error e => apply tends_log

/-- Once all units of the protocol are launched, an experiment only tends units. -/
theorem tends_conclude (point : Point) (helper receiver : UnitHandle)
    (sources : List UnitHandle) (started : Nat) :
  Makes m.Tends (do
    awaitResult m helper receiver sources started
    checkResult m point receiver
    let stats ← collectStats m (sources.take 1 ++ [helper, receiver]) []
    cleanUp m point
    return ⟨point.nSources, point.setSize, point.joinSize, point.rep, stats⟩ : Job ResultRecord)
  := by
  apply makes_bind
  · apply tends_awaitResult
  intro _
  apply makes_bind
  · apply tends_checkResult
  intro _
  apply makes_bind
  · apply tends_collectStats
  intro stats
  apply makes_bind
  · apply tends_cleanUp
  · intro _
    apply makes_pure

end Tending

section Working

variable (b : Benchmark) (m : Manager) (point : Point)

theorem works_generateData :
  (b.generateData m point).Makes m.Works
  := by
  apply makes_bind
  · apply works_log
  intro _
  apply makes_bind
  · apply m.works_runAll
  intro generators
  apply makes_bind
  · apply m.works_commit
  · intro _
    apply works_log

theorem works_startHelper :
  (b.startHelper m point).Makes m.Works
  := by
  apply makes_bind
  · apply works_log
  intro _
  apply makes_bind
  · apply makes_ofExcept
  intro flags
  apply makes_bind
  · apply m.works_runRole
  intro helper
  apply makes_bind
  · exact makes_perform (.tends (.own trivial))
  · intro _
    apply makes_pure

theorem works_startReceiver :
  (b.startReceiver m point).Makes m.Works
  := by
  apply makes_bind
  · apply makes_ofExcept
  · intro flags
    apply m.works_runRole

/-- What holds of all actions of its manager holds of all actions of an experiment. -/
theorem makes_runPoint {P : Action → Prop}
    (h : ∀ m, b.manager point.nSources = .ok m → ∀ action, m.Works action → P action) :
  (b.runPoint point).Makes P
  := by
  apply makes_bind_ofExcept
  intro m hmanager
  apply Makes.mono _ (h m hmanager)
  apply makes_bind
  · exact makes_perform (.tends (.own trivial))
  intro _
  apply makes_bind
  · apply works_of_tends
    apply m.tends_cleanAll
  intro removed
  apply makes_bind
  · apply m.works_prepareImages
  intro _
  apply makes_bind
  · exact makes_perform (.tends (.own trivial))
  intro _
  apply makes_bind
  · apply works_generateData
  intro _
  apply makes_bind
  · apply works_startHelper
  intro helper
  apply makes_bind
  · apply works_log
  intro _
  apply makes_bind
  · exact makes_perform (.tends (.own trivial))
  intro started
  apply makes_bind
  · apply works_startReceiver
  intro receiver
  apply makes_bind
  · apply m.works_runAll
  intro sources
  apply works_of_tends
  apply tends_conclude

end Working

end Benchmark

end JoinBench
