import JoinBench.Proofs.Benchmark.Grid
import JoinBench.Proofs.World.Steps

/-!
# Runs that are interrupted

An interrupt drops a grid where it stands, and a grid stands only where it waits: at a request to a
host or at a pause, in any order of the calls that are under way together.  At all of these moments
the sinks hold the records of the experiments that are through, since a record is written before
anything is waited for again.  What follows the interrupt finds the hosts as the last request left
them: either they stay so, or exactly the units with the label are removed.
-/

namespace JoinBench

open Host Program

theorem World.exists_answering_log (w : World Cluster) (line : LogLine) :
  ∃ w', World.answering (.log line) w = (some (), w') ∧ w.Resumes w' ∧ w'.sinks = w.sinks
  := ⟨{ w with log := line :: w.log }, rfl, ⟨rfl, rfl, rfl, rfl⟩, rfl⟩

/-- A record that all sinks accept is written to all of them. -/
theorem World.exists_answering_emit (w : World Cluster) (record : ResultRecord)
    (haccepts : ∀ sink ∈ w.sinks, sink.Accepts 1) :
  ∃ w', World.answering (.emit record) w = (some (.ok ()), w') ∧ w.Resumes w'
    ∧ w'.sinks = w.sinks.map (Sink.holding [record.jsonText])
  := by
  have hput := Sinks.put_of_accepts haccepts record.jsonText
  refine ⟨{ w with sinks := w.sinks.map (Sink.holding [record.jsonText]) }, ?_,
    ⟨rfl, rfl, rfl, rfl⟩, rfl⟩
  simp only [World.handler, World.emit, Sinks.emit, hput]

namespace Benchmark

variable {b : Benchmark} {point : Point} {points : List Point} {w w' w'' : World Cluster}
  {left : Job GridSummary} {kind : InterruptKind}

/-! ### Moments of a grid -/

/-- A run of points can be interrupted here: before it begins, or where it waits. -/
def IsMoment (b : Benchmark) (points : List Point) (w w' : World Cluster) : Prop :=
  w' = w ∨ ∃ left, Steps World.answering (b.runGrid points) w left w'
    ∧ left.Awaits Action.IsAwaited

/-- An experiment that is through, and its result. -/
abbrev Passage := Point × Except Error ResultRecord

/-- The lines of the records of some experiments. -/
def recordLines (passed : List Passage) : List String :=
  passed.filterMap fun p => p.2.toOption.map ResultRecord.jsonText

/-- The experiments went through one after the other, each in the surroundings that the one before
it left, up to the log and the sinks; none of them has an error that ends the run. -/
inductive GoesThrough (b : Benchmark) : World Cluster → List Passage → World Cluster → Prop where
  | nil {w w' : World Cluster} (h : w.Resumes w') : GoesThrough b w [] w'
  | cons {w before after w' : World Cluster} {point : Point} {r : Except Error ResultRecord}
      {passed : List Passage} (h : w.Resumes before)
      (hsteps : Steps World.answering (b.runPoint point) before (.ofExcept r) after)
      (hscope : ∀ e, r = .error e → e.isPointScoped = true)
      (hrest : GoesThrough b after passed w') :
    GoesThrough b w ((point, r) :: passed) w'

/-- How far a run of points has come: some experiments are through, and the next one waits. -/
inductive Reaches (b : Benchmark) (points : List Point) (w w' : World Cluster) :
    List Passage → Prop where
  | unbegun (h : w' = w) : Reaches b points w w' []
  | amid {passed : List Passage} {point : Point} {rest : List Point} {before : World Cluster}
      {left : Job ResultRecord} (hpoints : points = passed.map Prod.fst ++ point :: rest)
      (hthrough : b.GoesThrough w passed before)
      (hsteps : Steps World.answering (b.runPoint point) before left w')
      (hleft : left.Awaits Action.IsAwaited) : Reaches b points w w' passed

theorem GoesThrough.before {passed : List Passage} (h : b.GoesThrough w' passed w'')
    (hw : w.Resumes w') :
  b.GoesThrough w passed w''
  := by
  cases h with
  | nil h => exact .nil (hw.trans h)
  | cons h hsteps hscope hrest => exact .cons (hw.trans h) hsteps hscope hrest

/-- An experiment writes nothing to the sinks. -/
theorem sinks_eq_of_steps_runPoint {left : Job ResultRecord}
    (h : Steps World.answering (b.runPoint point) w left w') :
  w'.sinks = w.sinks
  := by
  have hmakes : (b.runPoint point).Makes fun action => ∀ record, action ≠ Action.emit record := by
    apply makes_runPoint
    rintro m - action haction record rfl
    cases haction.isWithin
  apply h.keeps (fun w' => w'.sinks = w.sinks) hmakes _ (fun _ _ h => h.elim) rfl
  intro action w₁ haction hsinks
  exact (World.sinks_handler _ haction w₁).trans hsinks

/-- From any point of a grid on: where the points that are left wait, some of them are through, and
their records and no others were written. -/
theorem exists_goesThrough_of_awaits {summary : GridSummary}
    (haccepts : ∀ sink ∈ w.sinks, sink.Accepts points.length)
    (h : Steps World.answering (b.runPoints points summary) w left w')
    (hleft : left.Awaits Action.IsAwaited) :
  ∃ passed point rest before under, points = passed.map Prod.fst ++ point :: rest
    ∧ b.GoesThrough w passed before ∧ Steps World.answering (b.runPoint point) before under w'
    ∧ under.Awaits Action.IsAwaited
    ∧ w'.sinks = w.sinks.map (Sink.holding (recordLines passed))
  := by
  induction points generalizing w summary with
  | nil =>
      have hover : left = pure _ := h.eq_of_isOver (by trivial)
      rw [hover] at hleft
      cases hleft
  | cons point rest ih =>
      obtain ⟨w₁, hlog, hresumes, hsinks₁⟩ := w.exists_answering_log
        (.of .info ("======= starting experiment #" ++ point.number.repr ++ " " ++ point.display
          ++ " ======="))
      rw [runPoints] at h
      have hpoint := Job.steps_of_awaits id hlog h hleft
      obtain ⟨under, hunder, hawaits⟩ | ⟨r, w₂, hr, hbehind⟩ :=
        stepsAmid_attempt_bind_of_awaits hpoint hleft
      · refine ⟨[], point, rest, w₁, under, rfl, .nil hresumes, hunder, hawaits, ?_⟩
        rw [sinks_eq_of_steps_runPoint hunder, hsinks₁]
        exact (Sinks.map_holding_nil _).symm
      · have hsinks₂ : w₂.sinks = w.sinks := (sinks_eq_of_steps_runPoint hr).trans hsinks₁
        cases r with
        | error e =>
            simp only at hbehind
            split_ifs at hbehind with hscope
            · obtain ⟨w₃, hlog', hresumes', hsinks₃⟩ := w₂.exists_answering_log
                (.of .error ("Experiment #" ++ point.number.repr ++ " abandoned: " ++ e.message))
              have hrest := Job.steps_of_awaits id hlog' hbehind hleft
              rw [← hsinks₂, ← hsinks₃] at haccepts
              obtain ⟨passed, next, others, before, under, rfl, hthrough, hunder, hawaits,
                hsinks⟩ := ih (fun sink hsink => (haccepts sink hsink).mono (Nat.le_succ _)) hrest
              rw [hsinks₃, hsinks₂] at hsinks
              refine ⟨(point, .error e) :: passed, next, others, before, under, rfl, ?_, hunder,
                hawaits, hsinks⟩
              apply GoesThrough.cons hresumes hr _ (hthrough.before hresumes')
              rintro _ ⟨⟩
              exact hscope
            · have hover : left = throw e := hbehind.eq_of_isOver (by trivial)
              rw [hover] at hleft
              cases hleft
        | ok record =>
            obtain ⟨w₃, hlog', hresumes', hsinks₃⟩ := w₂.exists_answering_log
              (.of .info ("Stats of experiment #" ++ point.number.repr ++ ": "
                ++ statsShown record.nodesStats))
            have hwrite := Job.steps_of_awaits id hlog' hbehind hleft
            rw [← hsinks₂, ← hsinks₃] at haccepts
            obtain ⟨w₄, hemit, hresumes'', hsinks₄⟩ := w₃.exists_answering_emit record
              fun sink hsink => (haccepts sink hsink).mono (Nat.le_add_left 1 _)
            have hrest := Job.steps_of_awaits id hemit hwrite hleft
            have haccepts₄ : ∀ sink ∈ w₄.sinks, sink.Accepts rest.length := by
              rw [hsinks₄, List.forall_mem_map]
              intro sink hsink
              apply Sink.Accepts.holding
              rw [List.length_singleton, Nat.add_comm]
              exact haccepts sink hsink
            obtain ⟨passed, next, others, before, under, rfl, hthrough, hunder, hawaits, hsinks⟩ :=
              ih haccepts₄ hrest
            refine ⟨(point, .ok record) :: passed, next, others, before, under, rfl, ?_, hunder,
              hawaits, ?_⟩
            · apply GoesThrough.cons hresumes hr _ (hthrough.before (hresumes'.trans hresumes''))
              rintro e ⟨⟩
            · rw [hsinks, hsinks₄, Sinks.map_holding_holding, hsinks₃, hsinks₂]
              rfl

/-- At every moment of a grid some experiments are through, and their records and no others were
written. -/
theorem IsMoment.exists_reaches (h : b.IsMoment points w w')
    (haccepts : ∀ sink ∈ w.sinks, sink.Accepts points.length) :
  ∃ passed, b.Reaches points w w' passed
    ∧ w'.sinks = w.sinks.map (Sink.holding (recordLines passed))
  := by
  obtain rfl | ⟨left, hsteps, hleft⟩ := h
  · exact ⟨[], .unbegun rfl, (Sinks.map_holding_nil _).symm⟩
  obtain ⟨w₁, hlog, hresumes, hsinks₁⟩ :=
    w.exists_answering_log (.of .info (points.length.repr ++ " experiments to run"))
  rw [runGrid] at hsteps
  have hpoints := Job.steps_of_awaits id hlog hsteps hleft
  obtain ⟨under, hunder, hawaits⟩ | ⟨summary, w₂, -, hbehind⟩ :=
    stepsAmid_bind_of_awaits hpoints hleft
  · rw [← hsinks₁] at haccepts
    obtain ⟨passed, point, rest, before, under, hpoints, hthrough, hunder, hawaits, hsinks⟩ :=
      exists_goesThrough_of_awaits haccepts hunder hawaits
    rw [hsinks₁] at hsinks
    exact ⟨passed, .amid hpoints (hthrough.before hresumes) hunder hawaits, hsinks⟩
  · obtain ⟨w₃, hlog', -, -⟩ := w₂.exists_answering_log (.of .info
      ("Grid finished, " ++ summary.completed.repr ++ " records written, "
        ++ summary.abandoned.length.repr ++ " points abandoned"))
    have hend := Job.steps_of_awaits id hlog' hbehind hleft
    rw [hend.eq_of_isOver (by trivial)] at hleft
    cases hleft

/-! ### What follows an interrupt -/

theorem sinks_eq_of_run {α : Type} {job : Job α}
    (h : job.Makes fun action => ∀ record, action ≠ Action.emit record) (w : World Cluster) :
  (World.run Cluster.layer job w).2.sinks = w.sinks
  := by
  have hkeeps : ∀ (action : Action) (w' : World Cluster), (∀ record, action ≠ .emit record) →
      w'.sinks = w.sinks → (World.answering action w').2.sinks = w.sinks :=
    fun action w' haction hsinks => (World.sinks_handler Cluster.layer haction w').trans hsinks
  exact @run_keeps _ _ _ _ _ World.answering (fun w' => w'.sinks = w.sinks) hkeeps _ h w rfl

/-- All hosts of the fabric are there, and no host ever goes down. -/
structure IsReachable (b : Benchmark) (w : World Cluster) : Prop where
  isThere : b.fabric.IsThere w.scene
  reachableRuns_eq : ∀ {id host}, w.scene.hosts id = some host → host.reachableRuns = none

theorem reachableRuns_answer (request : Request) (host : Memory) :
  (host.answer request).2.reachableRuns = host.reachableRuns
  := by
  cases request with
  | launch spec =>
      simp only [Memory.answer, Memory.launch]
      split_ifs <;> rfl
  | tag source target =>
      simp only [Memory.answer]
      split <;> rfl
  | commit unit target =>
      simp only [Memory.answer]
      split_ifs <;> rfl
  | list | wait | logs | follow | remove | removeImage => rfl

theorem IsReachable.answering (h : b.IsReachable w) (action : Action) :
  b.IsReachable (World.answering action w).2
  := by
  have hsame : ∀ w' : World Cluster, w'.hosts = w.hosts → b.IsReachable w' := by
    intro w' hhosts
    have hscene : w'.scene.hosts = w.scene.hosts := by simp only [World.scene, hhosts]
    constructor
    · intro id hid
      rw [hscene]
      exact h.isThere id hid
    · intro id host hhost
      rw [hscene] at hhost
      exact h.reachableRuns_eq hhost
  cases action with
  | ask id request =>
      cases hhost : w.scene.hosts id with
      | none =>
          rw [World.answering_ask_eq_none hhost]
          exact h
      | some host =>
          obtain ⟨hosts, hanswer, hscene⟩ := World.exists_answering_ask hhost request
          rw [hanswer]
          constructor
          · rw [hscene]
            exact h.isThere.setHost id _
          · intro other found hfound
            rw [hscene] at hfound
            obtain ⟨-, rfl⟩ | ⟨-, hfound⟩ := Scene.hosts_setHost_cases hfound
            · rw [reachableRuns_answer]
              exact h.reachableRuns_eq hhost
            · exact h.reachableRuns_eq hfound
  | pause | stateOf | setState | forgetStates | log | now | emit =>
      apply hsame
      apply World.hosts_handler
      rintro id request ⟨⟩

theorem IsMoment.isReachable (h : b.IsMoment points w w') (hw : b.IsReachable w) :
  b.IsReachable w'
  := by
  obtain rfl | ⟨left, hsteps, -⟩ := h
  · exact hw
  · exact hsteps.keeps b.IsReachable (makes_true _) (fun action w₁ _ h₁ => h₁.answering action)
      (fun _ _ h => h.elim) hw

/-- What follows an interrupt: no record is written and no unit is launched.  Either the hosts stay
as they are, or exactly the units with the label are removed. -/
structure IsHandled (b : Benchmark) (kind : InterruptKind) (w w' : World Cluster) : Prop where
  sinks_eq : w'.sinks = w.sinks
  hosts_eq : kind = .immediate → w'.hosts = w.hosts
  hosts_eq_of_notMem : ∀ id, id ∉ b.fabric.hosts → w'.scene.hosts id = w.scene.hosts id
  exists_host : kind = .cleanup → ∀ id ∈ b.fabric.hosts, ∀ host, w.scene.hosts id = some host →
    ∃ host', w'.scene.hosts id = some host' ∧ host'.images = host.images
      ∧ host'.launched = host.launched
      ∧ ∀ (unitId : String) (u : KeptUnit), host'.units[unitId]? = some u
        ↔ host.units[unitId]? = some u ∧ b.env.containerLabel ∉ u.labels

theorem isHandled_of_swept (hsinks : w'.sinks = w.sinks)
    (hscene : w'.scene = w.scene.swept b.env.containerLabel b.fabric.hosts) :
  b.IsHandled .cleanup w w'
  where
    sinks_eq := hsinks
    hosts_eq := by rintro ⟨⟩
    hosts_eq_of_notMem := by
      intro id hid
      rw [hscene, Scene.hosts_swept_of_notMem hid]
    exists_host := by
      intro _ id hid host hhost
      refine ⟨host.swept b.env.containerLabel, ?_, rfl, rfl, ?_⟩
      · rw [hscene, Scene.hosts_swept_of_mem hid, hhost, Option.map_some]
      · intro unitId u
        exact Memory.getElem?_units_swept

theorem makes_afterInterrupt (b : Benchmark) (kind : InterruptKind) :
  (b.afterInterrupt kind).Makes fun action => ∀ record, action ≠ Action.emit record
  := by
  have hlog : ∀ line record, Action.log line ≠ .emit record := by
    rintro line record ⟨⟩
  cases kind with
  | immediate =>
      apply makes_bind
      · exact makes_perform (hlog _)
      · intro _
        apply makes_pure
  | cleanup =>
      apply makes_bind
      · exact makes_perform (hlog _)
      intro _
      apply makes_bind
      · apply Fabric.makes_cleanAll hlog
        · rintro id - record ⟨⟩
        · rintro id - unitId record ⟨⟩
      intro removed
      apply makes_bind
      · exact makes_perform (hlog _)
      · intro _
        apply makes_pure

theorem exists_run_afterInterrupt (h : b.IsReachable w) (hd : w.deadline = none)
    (kind : InterruptKind) :
  ∃ w', World.run Cluster.layer (b.afterInterrupt kind) w = (some (.ok (.interrupted kind)), w')
    ∧ b.IsHandled kind w w'
  := by
  cases kind with
  | immediate =>
      exact ⟨_, rfl, rfl, fun _ => rfl, fun _ _ => rfl, fun h => by cases h⟩
  | cleanup =>
      have hleads : w.scene.Leads (b.afterInterrupt .cleanup) fun r sc =>
          r = .ok (.interrupted .cleanup)
            ∧ sc = w.scene.swept b.env.containerLabel b.fabric.hosts := by
        apply Scene.leads_bind
        apply Scene.leads_log
        rw [Scene.Then]
        apply Scene.leads_bind
        apply Fabric.leads_cleanAll_of_isThere h.isThere
        · rintro e sc - ⟨id, -, host, hhost, hdown⟩
          simp [Memory.isDown, h.reachableRuns_eq hhost] at hdown
        · rw [Scene.Then]
          apply Scene.leads_bind
          apply Scene.leads_log
          rw [Scene.Then]
          exact Scene.leads_pure ⟨rfl, rfl⟩
      obtain ⟨r, w', hrun, -, rfl, hscene⟩ := hleads w rfl hd
      refine ⟨w', hrun, isHandled_of_swept ?_ hscene⟩
      have hsinks := sinks_eq_of_run (b.makes_afterInterrupt .cleanup) w
      rw [World.run, hrun] at hsinks
      exact hsinks

/-! ### Interrupted runs -/

/-- A grid that is run and left without an answer can be interrupted there. -/
theorem isMoment_of_run (hrun : World.run Cluster.layer (b.runGrid points) w = (none, w')) :
  b.IsMoment points w w'
  := by
  have hplays : Plays World.answering Action.IsAwaited (b.runGrid points) w
      (World.run Cluster.layer (b.runGrid points) w) :=
    plays_run (fun action w₁ haction => World.exists_handler_of_not_isAwaited _ haction w₁) _ w
  rw [hrun] at hplays
  exact .inr hplays

/-- A run of points ends with the interrupt that it meets at a moment: the sinks hold the records of
the experiments that are through, and what follows the interrupt is done. -/
structure EndsInterrupted (b : Benchmark) (points : List Point) (kind : InterruptKind)
    (w w' : World Cluster) (o : Outcome Error RunOutcome (World Cluster)) : Prop where
  result_eq : o.1 = some (.ok (.interrupted kind))
  isHandled : b.IsHandled kind w' o.2
  exists_reaches : ∃ passed, b.Reaches points w w' passed
    ∧ o.2.sinks = w.sinks.map (Sink.holding (recordLines passed))

theorem IsMoment.endsInterrupted (h : b.IsMoment points w w') (hreachable : b.IsReachable w)
    (haccepts : ∀ sink ∈ w.sinks, sink.Accepts points.length) (kind : InterruptKind)
    (clock : Nat) :
  b.EndsInterrupted points kind w w' (World.run Cluster.layer (b.afterInterrupt kind)
    { w' with clock := clock, deadline := none })
  := by
  obtain ⟨passed, hreaches, hsinks⟩ := h.exists_reaches haccepts
  obtain ⟨hthere, hruns⟩ := h.isReachable hreachable
  obtain ⟨w'', hrun, hhandled⟩ := exists_run_afterInterrupt
    (w := { w' with clock := clock, deadline := none }) ⟨hthere, hruns⟩ rfl kind
  obtain ⟨hsinks', hhosts, hothers, hhost⟩ := hhandled
  rw [hrun]
  exact ⟨rfl, ⟨hsinks', hhosts, hothers, hhost⟩, passed, hreaches, hsinks'.trans hsinks⟩

/-- Whenever an interrupt comes before a grid is through, also before it begins, the run ends with
that interrupt, every sink holds exactly the records of the experiments that are through, and the
hosts are as the interrupt met them, but for the units with the label where these are to be removed.
Where no interrupt comes, the run ends as the grid does. -/
theorem runUntilInterrupted_spec (hreachable : b.IsReachable w) (hd : w.deadline = none)
    (haccepts : ∀ sink ∈ w.sinks, sink.Accepts points.length) (kind : InterruptKind) :
  (∀ w', b.IsMoment points w w' → ∀ clock, b.EndsInterrupted points kind w w'
    (World.run Cluster.layer (b.afterInterrupt kind)
      { w' with clock := clock, deadline := none }))
  ∧ b.EndsInterrupted points kind w w
    (b.runUntilInterrupted Cluster.layer points (some (0, kind)) w)
  ∧ (∀ ms, (World.run Cluster.layer (b.runGrid points)
      { w with deadline := some (w.clock + (ms + 1)) }).1 = none →
    ∃ w', b.IsMoment points { w with deadline := some (w.clock + (ms + 1)) } w'
      ∧ b.EndsInterrupted points kind { w with deadline := some (w.clock + (ms + 1)) } w'
        (b.runUntilInterrupted Cluster.layer points (some (ms + 1, kind)) w))
  ∧ b.runUntilInterrupted Cluster.layer points none w
    = ((World.run Cluster.layer (b.runGrid points) w).1.map (Except.map .finished),
      (World.run Cluster.layer (b.runGrid points) w).2)
  := by
  refine ⟨?_, ?_, ?_, ?_⟩
  · intro w' hmoment clock
    exact hmoment.endsInterrupted hreachable haccepts kind clock
  · have hstart : b.IsMoment points w w := .inl rfl
    have hends := hstart.endsInterrupted hreachable haccepts kind w.clock
    rw [← hd] at hends
    exact hends
  · intro ms hnone
    cases hrun : World.run Cluster.layer (b.runGrid points)
        { w with deadline := some (w.clock + (ms + 1)) } with
    | mk r w' =>
        rw [hrun] at hnone
        obtain rfl : r = none := hnone
        have hmoment := isMoment_of_run hrun
        have hends := hmoment.endsInterrupted
          ⟨hreachable.isThere, hreachable.reachableRuns_eq⟩ haccepts kind
          (max w'.clock (w.clock + (ms + 1)))
        refine ⟨w', hmoment, ?_⟩
        simp only [runUntilInterrupted, hrun]
        exact hends
  · have hbind : World.run Cluster.layer (RunOutcome.finished <$> b.runGrid points) w = _ :=
      run_bind (b.runGrid points) (fun summary => pure (RunOutcome.finished summary)) w
    have hgrid : World.run Cluster.layer (b.runGrid points) w
      = (b.runGrid points).run World.answering w := rfl
    rw [runUntilInterrupted, hbind, hgrid]
    obtain ⟨_ | e | summary, w'⟩ := (b.runGrid points).run World.answering w <;> rfl

theorem isReachable_usedWorld :
  usual.IsReachable usedWorld
  where
    isThere := isReadyIn_usedWorld.isIn.isThere
    reachableRuns_eq := by
      intro id host hhost
      simp only [World.scene, usedWorld, World.start, Cluster.host?, Option.none_or,
        Option.ite_none_right_eq_some] at hhost
      obtain ⟨-, hhost⟩ := hhost
      cases hhost
      rfl

/-- Two experiments with a row in the join. -/
def joinedPoints : List Point :=
  [⟨0, 2, 2, 1, 0⟩, ⟨1, 2, 2, 1, 0⟩]

/-- The line of the first of them. -/
def joinedLine : String :=
  ResultRecord.jsonText ⟨2, 2, 1, 0, [("helper", some (.object [("sent", .int 2)])),
    ("receiver", none), ("source_0", some (.object [("sent", .int 2)]))]⟩

/-- The names of all units, host by host. -/
def unitNames (w : World Cluster) : List String :=
  w.hosts.flatMap fun host => host.units.toList.map fun u => u.2.name

/-- Interrupted while the helper of the second experiment starts: the first record is written, and
of the two units that are there then only the one with the label is removed. -/
theorem runUntilInterrupted_spec_joined :
  ∃ w' o, usual.runUntilInterrupted Cluster.layer joinedPoints (some (6000, .cleanup)) usedWorld = o
    ∧ usual.IsMoment joinedPoints { usedWorld with deadline := some 6000 } w'
    ∧ usual.EndsInterrupted joinedPoints .cleanup { usedWorld with deadline := some 6000 } w' o
    ∧ unitNames (World.run Cluster.layer (usual.runGrid joinedPoints)
      { usedWorld with deadline := some 6000 }).2 = ["watchdog", "helper"]
    ∧ unitNames o.2 = ["watchdog"] ∧ o.2.sinks.map Sink.content = [joinedLine ++ "\n"]
  := by
  have haccepts : ∀ sink ∈ usedWorld.sinks, sink.Accepts joinedPoints.length :=
    List.forall_mem_singleton.mpr (Sink.accepts_empty _)
  have hcut : (World.run Cluster.layer (usual.runGrid joinedPoints)
        { usedWorld with deadline := some 6000 }).1.isNone = true
      ∧ unitNames (World.run Cluster.layer (usual.runGrid joinedPoints)
        { usedWorld with deadline := some 6000 }).2 = ["watchdog", "helper"]
      ∧ unitNames (usual.runUntilInterrupted Cluster.layer joinedPoints (some (6000, .cleanup))
        usedWorld).2 = ["watchdog"]
      ∧ (usual.runUntilInterrupted Cluster.layer joinedPoints (some (6000, .cleanup))
        usedWorld).2.sinks.map Sink.content = [joinedLine ++ "\n"] := by
    decide +kernel
  obtain ⟨hnone, hunits, hleft, hcontents⟩ := hcut
  obtain ⟨w', hmoment, hends⟩ := (runUntilInterrupted_spec isReachable_usedWorld rfl haccepts
    .cleanup).2.2.1 5999 (Option.isNone_iff_eq_none.mp hnone)
  exact ⟨w', _, rfl, hmoment, hends, hunits, hleft, hcontents⟩

end Benchmark

end JoinBench
