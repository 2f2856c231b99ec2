import JoinBench.Proofs.Benchmark.Phases
import JoinBench.Proofs.Environment
import JoinBench.Proofs.Lifecycle.Within
import JoinBench.Proofs.Oracle.Acceptance

/-!
# What becomes of an experiment

On ready hosts an experiment ends with a record exactly where its units and what they print allow
it.  Else it ends with an error of the configuration, of a unit or of the result, and of no other
kind: no operation of the lifecycle and no request to a host fails.
-/

namespace JoinBench

open Host

/-- An error that experiments on ready hosts may end with. -/
def Error.IsOfPoint : Error → Prop
  | config _ => True
  | unitRun _ _ _ => True
  | resultMismatch _ _ => True
  | _ => False

namespace Manager

theorem exists_success_eq_ok {role : Role} {result : UnitResult} :
  (∃ done, success role result = .ok done) ↔ result.status = 0
  := by
  rw [← success_eq_ok]
  constructor
  · rintro ⟨done, hdone⟩
    exact hdone
  · intro hok
    exact ⟨(), hok⟩

theorem isOfPoint_of_success {role : Role} {result : UnitResult} {e : Error}
    (h : success role result = .error e) :
  e.IsOfPoint
  := by
  rw [success] at h
  split_ifs at h
  cases h
  trivial

theorem isOfPoint_of_hostFor {m : Manager} {role : Role} {e : Error}
    (h : m.hostFor role = .error e) :
  e.IsOfPoint
  := by
  obtain h | ⟨id, -, h⟩ := bind_eq_error.mp h
  · cases role with
    | source i =>
        rw [Topology.hostOf] at h
        split at h
        · cases h
        · cases h
          trivial
    | helper | receiver => cases h
  · rw [Fabric.host] at h
    split_ifs at h
    cases h
    trivial

end Manager

namespace Benchmark

variable {b : Benchmark} {results : HostId → LaunchSpec → UnitResult} {point : Point}

/-! ### The parts of the verdict -/

theorem exists_successes_eq_ok {result : Role → UnitResult} :
  (∃ all, (point.sources.mapM fun role => Manager.success role (result role)) = .ok all)
    ↔ ∀ i < point.nSources, (result (.source i)).status = 0
  := by
  simp only [exists_mapM_eq_ok, Manager.exists_success_eq_ok]
  simp [Point.sources]

theorem generation_eq_ok :
  b.generation results point = .ok ()
    ↔ ∀ i < point.nSources, (b.generated results point (.source i)).status = 0
  := by
  rw [← exists_successes_eq_ok, generation, bind_eq_ok]
  constructor
  · rintro ⟨all, hall, -⟩
    exact ⟨all, hall⟩
  · rintro ⟨all, hall⟩
    exact ⟨all, hall, rfl⟩

theorem protocol_eq_ok :
  b.protocol results point = .ok ()
    ↔ (b.received results point).status = 0
      ∧ ∀ i < point.nSources, (b.served results point (.source i)).status = 0
  := by
  rw [← exists_successes_eq_ok, protocol, bind_eq_ok, ← Manager.exists_success_eq_ok]
  constructor
  · rintro ⟨done, hdone, h⟩
    obtain ⟨all, hall, -⟩ := bind_eq_ok.mp h
    exact ⟨⟨done, hdone⟩, all, hall⟩
  · rintro ⟨⟨done, hdone⟩, all, hall⟩
    exact ⟨done, hdone, bind_eq_ok.mpr ⟨all, hall, rfl⟩⟩

theorem comparison_eq_ok :
  b.comparison results point = .ok ()
    ↔ Experiment.expectedResult point.sourceIds point.setSize point.joinSize point.seed
      = .ok (receivedRows (b.received results point).stdout)
  := by
  rw [comparison, bind_eq_ok]
  constructor
  · rintro ⟨expected, hexpected, hverify⟩
    rw [hexpected, verify_eq_ok.mp hverify]
  · intro h
    exact ⟨_, h, verify_eq_ok.mpr rfl⟩

theorem isOfPoint_of_successes {roles : List Role} {result : Role → UnitResult} {e : Error}
    (h : (roles.mapM fun role => Manager.success role (result role)) = .error e) :
  e.IsOfPoint
  := by
  obtain ⟨role, -, hrole⟩ := exists_of_mapM_eq_error h
  apply Manager.isOfPoint_of_success hrole

theorem isOfPoint_of_generation {e : Error} (h : b.generation results point = .error e) :
  e.IsOfPoint
  := by
  obtain h | ⟨all, -, h⟩ := bind_eq_error.mp h
  · apply isOfPoint_of_successes h
  · cases h

theorem isOfPoint_of_protocol {e : Error} (h : b.protocol results point = .error e) :
  e.IsOfPoint
  := by
  obtain h | ⟨done, -, h⟩ := bind_eq_error.mp h
  · apply Manager.isOfPoint_of_success h
  · obtain h | ⟨all, -, h⟩ := bind_eq_error.mp h
    · apply isOfPoint_of_successes h
    · cases h

theorem isOfPoint_of_comparison (hsources : point.nSources ≠ 0) {e : Error}
    (h : b.comparison results point = .error e) :
  e.IsOfPoint
  := by
  have hlength : point.sourceIds.length = point.nSources := by
    simp [Point.sourceIds, Point.sources]
  have hne : point.sourceIds ≠ [] := by
    rw [← List.length_pos_iff, hlength]
    exact Nat.pos_of_ne_zero hsources
  obtain h | ⟨expected, -, h⟩ := bind_eq_error.mp h
  · by_cases hfew : point.setSize ≤ point.joinSize ∨ point.sourceIds.length = 1
    · obtain ⟨problem, hproblem⟩ :=
        Experiment.exists_expectedResult_eq_error hne hfew point.seed
      rw [hproblem] at h
      cases h
      trivial
    · rw [not_or] at hfew
      obtain ⟨expected, hexpected⟩ := Experiment.exists_expectedResult_eq_ok
        (Nat.not_le.mp hfew.1) (show 2 ≤ point.sourceIds.length by omega) point.seed
      rw [hexpected] at h
      cases h
  · rw [verify] at h
    split_ifs at h
    cases h
    trivial

theorem isOfPoint_of_manager {e : Error} (h : b.manager point.nSources = .error e) :
  e.IsOfPoint
  := by
  rw [manager, Topology.resolve] at h
  split_ifs at h
  · cases h
    trivial
  · cases h
    trivial
  · cases h

/-- A verdict that is an error is one of the configuration, of a unit or of the result. -/
theorem isOfPoint_of_verdict {e : Error} (h : b.verdict results point = .error e) :
  e.IsOfPoint
  := by
  obtain h | ⟨m, hmanager, h⟩ := bind_eq_error.mp h
  · apply isOfPoint_of_manager h
  have hsources : point.nSources ≠ 0 := by
    simpa [Point.sources] using (manages_of_manager hmanager).sources_ne
  obtain h | ⟨ids, -, h⟩ := bind_eq_error.mp h
  · obtain ⟨role, -, hrole⟩ := exists_of_mapM_eq_error h
    apply Manager.isOfPoint_of_hostFor hrole
  obtain h | ⟨-, -, h⟩ := bind_eq_error.mp h
  · apply isOfPoint_of_generation h
  obtain h | ⟨-, -, h⟩ := bind_eq_error.mp h
  · apply isOfPoint_of_protocol h
  obtain h | ⟨-, -, h⟩ := bind_eq_error.mp h
  · apply isOfPoint_of_comparison hsources h
  · cases h

/-! ### When there is a record -/

/-- The units of the experiment and what they print allow a record: there are several sources and
a row outside the join, all sources generate their data, the receiver and all sources run the
protocol to success, and the receiver prints the expected rows. -/
structure Passes (b : Benchmark) (results : HostId → LaunchSpec → UnitResult) (point : Point) :
    Prop where
  two_le_nSources : 2 ≤ point.nSources
  joinSize_lt_setSize : point.joinSize < point.setSize
  generated_status : ∀ i < point.nSources, (b.generated results point (.source i)).status = 0
  received_status : (b.received results point).status = 0
  served_status : ∀ i < point.nSources, (b.served results point (.source i)).status = 0
  received_rows :
    Experiment.expectedResult point.sourceIds point.setSize point.joinSize point.index
      = .ok (receivedRows (b.received results point).stdout)

/-- The expected result is only there for several sources and with a row outside the join. -/
theorem sizes_of_comparison (hsources : point.nSources ≠ 0)
    (h : b.comparison results point = .ok ()) :
  2 ≤ point.nSources ∧ point.joinSize < point.setSize
  := by
  have hlength : point.sourceIds.length = point.nSources := by
    simp [Point.sourceIds, Point.sources]
  have hne : point.sourceIds ≠ [] := by
    rw [← List.length_pos_iff, hlength]
    exact Nat.pos_of_ne_zero hsources
  by_contra hsizes
  have hfew : point.setSize ≤ point.joinSize ∨ point.sourceIds.length = 1 := by
    omega
  obtain ⟨problem, hproblem⟩ := Experiment.exists_expectedResult_eq_error hne hfew point.seed
  rw [comparison_eq_ok, hproblem] at h
  cases h

/-- The manager of an experiment is there where the environment has a host for its sources. -/
theorem exists_manager (henv : b.env.sourceHosts ≠ []) (hsources : point.nSources ≠ 0) :
  ∃ m, b.manager point.nSources = .ok m
  := by
  rw [manager, Topology.resolve, dif_neg henv, if_neg hsources]
  exact ⟨_, rfl⟩

/-- On a fabric with all hosts of the environment the verdict is a record where the units and what
they print allow it. -/
theorem verdict_eq_ok (henv : b.env.sourceHosts ≠ [])
    (hcover : ∀ id ∈ b.env.allHosts, id ∈ b.fabric.hosts) {record : ResultRecord} :
  b.verdict results point = .ok record
    ↔ b.Passes results point ∧ record = b.record results point
  := by
  constructor
  · intro h
    obtain ⟨m, hmanager, h⟩ := bind_eq_ok.mp h
    have hsources : point.nSources ≠ 0 := by
      simpa [Point.sources] using (manages_of_manager hmanager).sources_ne
    obtain ⟨ids, -, h⟩ := bind_eq_ok.mp h
    obtain ⟨⟨⟩, hgeneration, h⟩ := bind_eq_ok.mp h
    obtain ⟨⟨⟩, hprotocol, h⟩ := bind_eq_ok.mp h
    obtain ⟨⟨⟩, hcomparison, h⟩ := bind_eq_ok.mp h
    obtain ⟨htwo, hsizes⟩ := sizes_of_comparison hsources hcomparison
    obtain ⟨hreceived, hserved⟩ := protocol_eq_ok.mp hprotocol
    cases h
    exact ⟨⟨htwo, hsizes, generation_eq_ok.mp hgeneration, hreceived, hserved,
      comparison_eq_ok.mp hcomparison⟩, rfl⟩
  · rintro ⟨h, rfl⟩
    have hsources : point.nSources ≠ 0 := by
      have htwo := h.two_le_nSources
      omega
    obtain ⟨m, hmanager⟩ := exists_manager henv hsources
    have hm := manages_of_manager hmanager
    obtain ⟨ids, hids⟩ : ∃ ids, m.topology.roles.mapM m.hostFor = .ok ids := by
      rw [exists_mapM_eq_ok]
      intro role hrole
      use b.env.hostOf role
      rw [hm.hostFor_eq hrole]
      apply Manager.fabric_host_eq_ok
      rw [hm.fabric_eq]
      apply hcover
      apply Environment.hostOf_mem_allHosts henv
    apply bind_eq_ok.mpr
    use m, hmanager
    apply bind_eq_ok.mpr
    use ids, hids
    apply bind_eq_ok.mpr
    use (), generation_eq_ok.mpr h.generated_status
    apply bind_eq_ok.mpr
    use (), protocol_eq_ok.mpr ⟨h.received_status, h.served_status⟩
    apply bind_eq_ok.mpr
    use (), comparison_eq_ok.mpr h.received_rows
    rfl

/-! ### Experiments on ready hosts -/

/-- No interrupt is due, and all hosts of the fabric are ready for experiments. -/
structure IsReadyIn (b : Benchmark) (results : HostId → LaunchSpec → UnitResult)
    (w : World Cluster) : Prop where
  deadline_eq : w.deadline = none
  exists_host : ∀ id ∈ b.fabric.hosts, ∃ host, Cluster.host? id w.hosts = some host
    ∧ host.Ready (results id) b.env.image.base b.env.containerLabel

theorem IsReadyIn.isIn {w : World Cluster} (h : b.IsReadyIn results w) :
  b.fabric.IsIn w
  where
    deadline_eq := h.deadline_eq
    isThere := by
      intro id hid
      obtain ⟨host, hhost, -⟩ := h.exists_host id hid
      exact ⟨host, hhost⟩

/-- A record holds the statistics of three units, in ascending order of their names. -/
theorem nodesStats_record (b : Benchmark) (results : HostId → LaunchSpec → UnitResult)
    (point : Point) :
  (b.record results point).nodesStats
    = [("helper", (Statistics.collect ⟨"helper"⟩ (b.helped results point).stderr).2),
      ("receiver", (Statistics.collect ⟨"receiver"⟩ (b.received results point).stderr).2),
      ("source_0",
        (Statistics.collect ⟨"source_0"⟩ (b.served results point (.source 0)).stderr).2)]
  := by
  have hid : (Role.source 0).id = ⟨"source_0"⟩ := by decide
  have hput : ∀ first helper receiver : Option Json,
      Json.put "receiver" receiver (Json.put "helper" helper (Json.put "source_0" first []))
        = [("helper", helper), ("receiver", receiver), ("source_0", first)] := by
    intro first helper receiver
    rw [Json.put, Json.put, if_pos (by decide), Json.put, if_neg (by decide),
      if_neg (by decide), Json.put, if_pos (by decide)]
  rw [record, List.foldl_cons, List.foldl_cons, List.foldl_cons, List.foldl_nil, withStats,
    withStats, withStats, hid]
  simp only [Role.id]
  rw [hput]

/-- On ready hosts an experiment yields its verdict, and where it yields a record no unit with the
label is left. -/
theorem exists_run_runPoint {w : World Cluster} (hready : b.IsReadyIn results w)
    (hapart : b.env.image.IsApart) (point : Point) :
  ∃ w', World.run Cluster.layer (b.runPoint point) w = (some (b.verdict results point), w')
    ∧ ∀ record, b.verdict results point = .ok record → ∀ id ∈ b.fabric.hosts,
      ∀ host, Cluster.host? id w'.hosts = some host → host.labelled b.env.containerLabel = []
  := by
  have hscene : b.fabric.IsReady results b.env.image.base b.env.containerLabel w.scene := by
    intro id hid
    obtain ⟨host, hhost, hhostReady⟩ := hready.exists_host id hid
    exact ⟨host, hhost, Cluster.id_of_host? hhost, hhostReady⟩
  have hleads : w.scene.Leads (b.runPoint point) fun r sc' => r = b.verdict results point
      ∧ ∀ record, b.verdict results point = .ok record →
        ∀ id ∈ b.fabric.hosts, Fabric.IsCleanAt b.env.containerLabel id sc' := by
    apply leads_runPoint hscene hapart
    · intro e sc' he
      rw [he]
      use rfl
      intro record hrecord
      cases hrecord
    · intro record sc' hrecord hclean
      exact ⟨hrecord.symm, fun _ _ => hclean⟩
  obtain ⟨r, w', hrun, -, rfl, hclean⟩ := hleads w rfl hready.deadline_eq
  exact ⟨w', hrun, hclean⟩

/-- On ready hosts an experiment in a checked environment ends.  It yields a record exactly where
its units and what they print allow it; the record has the numbers of the point and the statistics
of the first source, the helper and the receiver, and no unit with the label is left on any host.
Else it yields an error of the configuration, of a unit or of the result. -/
theorem run_runPoint {settings : Settings} (henv : Environment.ofSettings settings = .ok b.env)
    (hapart : b.env.image.IsApart) (hcover : ∀ id ∈ b.env.allHosts, id ∈ b.fabric.hosts)
    {w : World Cluster} (hready : b.IsReadyIn results w) (point : Point) :
  ∃ r w', World.run Cluster.layer (b.runPoint point) w = (some r, w')
    ∧ ((∃ record, r = .ok record) ↔ b.Passes results point)
    ∧ (∀ record, r = .ok record → record.nSources = point.nSources
      ∧ record.setSize = point.setSize ∧ record.joinSize = point.joinSize
      ∧ record.rep = point.rep
      ∧ record.nodesStats.map Prod.fst = ["helper", "receiver", "source_0"]
      ∧ ∀ id ∈ b.fabric.hosts, ∀ host, Cluster.host? id w'.hosts = some host →
        host.labelled b.env.containerLabel = [])
    ∧ ∀ e, r = .error e → (∃ problem, e = .config problem)
      ∨ (∃ role status logs, e = .unitRun role status logs)
      ∨ ∃ expected observed, e = .resultMismatch expected observed
  := by
  have hsources := Environment.sourceHosts_ne_nil henv
  obtain ⟨w', hrun, hclean⟩ := exists_run_runPoint hready hapart point
  refine ⟨_, w', hrun, ?_, ?_, ?_⟩
  · constructor
    · rintro ⟨record, hrecord⟩
      exact ((verdict_eq_ok hsources hcover).mp hrecord).1
    · intro hpasses
      exact ⟨_, (verdict_eq_ok hsources hcover).mpr ⟨hpasses, rfl⟩⟩
  · intro record hrecord
    obtain ⟨-, rfl⟩ := (verdict_eq_ok hsources hcover).mp hrecord
    refine ⟨rfl, rfl, rfl, rfl, ?_, ?_⟩
    · rw [nodesStats_record]
      rfl
    · apply hclean _ hrecord
  · intro e he
    have hpoint := isOfPoint_of_verdict he
    cases e with
    | config problem => exact .inl ⟨problem, rfl⟩
    | unitRun role status logs => exact .inr (.inl ⟨role, status, logs, rfl⟩)
    | resultMismatch expected observed => exact .inr (.inr ⟨expected, observed, rfl⟩)
    | io | json | csv | connection | runtime | lifecycle | stats => cases hpoint

/-- The benchmark in the usual environment. -/
def usual : Benchmark :=
  ⟨.usual, ⟨[.localhost]⟩⟩

/-- A machine with nothing but the base image, on which all units succeed and print nothing. -/
def usualWorld : World Cluster :=
  .start [(Memory.empty .localhost fun _ _ => {}).addImage Environment.usual.image.base] []

theorem isReadyIn_usualWorld :
  usual.IsReadyIn (fun _ _ => {}) usualWorld
  where
    deadline_eq := rfl
    exists_host := by
      intro id hid
      obtain rfl := List.mem_singleton.mp hid
      exact ⟨_, rfl, .addImage_empty _ _ _ _⟩

/-- Results of units that find one row in the join: the receiver prints it, the others report
statistics. -/
def joinedResult (spec : LaunchSpec) : UnitResult :=
  if spec.name = "receiver" then
    { stdout := "source_0,source_1\nval_source_0_802,val_source_1_732\n" }
  else { stderr := "Stats: \x7b\"sent\": 2\x7d\n" }

/-- A machine on which a run was cut off, and which has a unit that is none of the benchmark. -/
def usedHost : Memory :=
  (((Memory.empty .localhost fun _ => joinedResult).addImage usual.env.image.base).addImage
    ⟨"mppj", "helper"⟩).addStaleUnit "helper" usual.env.containerLabel
    |>.addStaleUnit "watchdog" "other"

/-- That machine, and a sink. -/
def usedWorld : World Cluster :=
  .start [usedHost] [.empty]

theorem isReadyIn_usedWorld :
  usual.IsReadyIn (fun _ => joinedResult) usedWorld
  where
    deadline_eq := rfl
    exists_host := by
      intro id hid
      obtain rfl := List.mem_singleton.mp hid
      refine ⟨usedHost, rfl, ?_⟩
      have hname : ∀ role : Role, "watchdog" ≠ role.id.text := by
        intro role h
        have hhead := role.head?_id
        rw [← h] at hhead
        cases role <;> simp at hhead
      exact (((Memory.Ready.addImage_empty _ _ _ _).addImage _).addStaleUnit _).addStaleUnit_of_ne
        hname _

/-- An experiment with a row in the join, on a machine with units that were left behind. -/
theorem run_runPoint_joined :
  ∃ record w', World.run Cluster.layer (usual.runPoint ⟨0, 2, 2, 1, 0⟩) usedWorld
      = (some (.ok record), w')
    ∧ record.nSources = 2 ∧ record.setSize = 2 ∧ record.joinSize = 1 ∧ record.rep = 0
    ∧ record.nodesStats.map Prod.fst = ["helper", "receiver", "source_0"]
    ∧ usedHost.labelled usual.env.containerLabel = [⟨"localhost-stale-3", "helper"⟩]
    ∧ ∀ id ∈ usual.fabric.hosts, ∀ host, Cluster.host? id w'.hosts = some host →
      host.labelled usual.env.containerLabel = []
  := by
  have hrows : Table.rows (Table.join Experiment.pairTables)
      = receivedRows "source_0,source_1\nval_source_0_802,val_source_1_732\n" := by
    decide +kernel
  have hpasses : usual.Passes (fun _ => joinedResult) ⟨0, 2, 2, 1, 0⟩ :=
    { two_le_nSources := Nat.le_refl 2
      joinSize_lt_setSize := Nat.one_lt_two
      generated_status := by decide +kernel
      received_status := by decide +kernel
      served_status := by decide +kernel
      received_rows := Experiment.expectedResult_pair.trans (congrArg Except.ok hrows) }
  obtain ⟨r, w', hrun, hiff, hrecord, -⟩ := run_runPoint Environment.ofSettings_usual
    Environment.isApart_usual (by decide) isReadyIn_usedWorld ⟨0, 2, 2, 1, 0⟩
  obtain ⟨record, rfl⟩ := hiff.mpr hpasses
  obtain ⟨hsources, hset, hjoin, hrep, hnames, hclean⟩ := hrecord record rfl
  exact ⟨record, w', hrun, hsources, hset, hjoin, hrep, hnames, by decide +kernel, hclean⟩

end Benchmark

end JoinBench
