import JoinBench.Proofs.Benchmark.Verdict
import JoinBench.Proofs.Lifecycle.Resetting

/-!
# The phases of an experiment

Every phase of an experiment does its part of the verdict: it yields the error of that part, or
it leads to the stage of the next phase.
-/

namespace JoinBench

namespace Benchmark

open Host Scene Manager

variable {b : Benchmark} {point : Point} {m : Manager}
  {results : HostId → LaunchSpec → UnitResult} {prepared : List Role}
  {live : Role → Option LiveUnit} {sc : Scene}

namespace Manages

variable (hm : b.Manages point m)

include hm

theorem sourceIds_eq :
  m.topology.sourceIds = point.sourceIds
  := by
  rw [Topology.sourceIds, hm.sources_eq, Point.sourceIds]

theorem mem_roles {role : Role} (h : role ∈ point.sources) :
  role ∈ m.topology.roles
  := by
  rw [← hm.sources_eq] at h
  apply Topology.mem_roles_of_mem_sources h

theorem withSources_eq (flags : UnitFlags) :
  flags.withSources m.topology.sourceIds = .ok { flags with sources := some point.sourceIds }
  := by
  rw [hm.sourceIds_eq, Point.sourceIds, UnitFlags.withSources_map_id flags hm.sources_ne]

/-- A unit of the experiment leaves what its role leaves with its command and its flags. -/
theorem unitOf_eq {role : Role} {handle : UnitHandle} (hrole : role ∈ m.topology.roles)
    (hid : m.hostFor role = .ok handle.host) (template : String) (flags : UnitFlags) :
  m.unitOf results (Command.render template m.topology.sourceIds point) flags role handle
    = ⟨handle, b.leaves results point template flags role⟩
  := by
  rw [hm.hostFor_eq hrole] at hid
  rw [unitOf, leaves, hm.sourceIds_eq, hm.specOf_eq, Fabric.eq_of_host hid]

/-! ### Launching -/

/-- A role that is neither source is launched with a command of the experiment. -/
theorem leads_runRole (h : m.OnStage results prepared live sc) {role : Role}
    (hmem : role ∈ m.topology.roles) (hrole : role ∈ prepared) (hidle : live role = none)
    {template : String} {flags : UnitFlags} {Q : Except Error UnitHandle → Scene → Prop}
    (hQ : ∀ handle sc',
      m.OnStage results prepared (Function.update live role
        (some ⟨handle, b.leaves results point template flags role⟩)) sc' → Q (.ok handle) sc') :
  sc.Leads (m.runRole role (Command.render template m.topology.sourceIds point) flags) Q
  := by
  apply Manager.leads_runRole h hrole hidle
  intro handle sc' h'
  have hlive := Function.update_self role
    (some (m.unitOf results (Command.render template m.topology.sourceIds point) flags role
      handle)) live
  have hid : m.hostFor role = .ok handle.host := (h'.of_live hlive).2.2
  rw [hm.unitOf_eq hmem hid] at h'
  apply hQ handle sc' h'

/-- The sources of the experiment are launched together with a command. -/
theorem leads_runSources (h : m.OnStage results prepared live sc)
    (hprepared : ∀ role ∈ m.topology.roles, role ∈ prepared)
    (hidle : ∀ role ∈ point.sources, live role = none) {template : String} {flags : UnitFlags}
    {Q : Except Error (List UnitHandle) → Scene → Prop}
    (hQ : ∀ (handle : Role → UnitHandle) sc',
      m.OnStage results prepared (fun role =>
        if role ∈ point.sources then
          some ⟨handle role, b.leaves results point template flags role⟩
        else live role) sc' → Q (.ok (point.sources.map handle)) sc') :
  sc.Leads
    (m.runAll (Command.render template m.topology.sourceIds point) m.topology.sources flags) Q
  := by
  rw [hm.sources_eq]
  apply leads_runAll h (fun role hrole => hprepared role (hm.mem_roles hrole)) hidle
  · rw [← hm.sources_eq]
    apply Topology.nodup_sources
  · intro handle sc' h'
    apply hQ handle sc'
    convert h' using 1
    funext role
    by_cases hrole : role ∈ point.sources
    · have hid : m.hostFor role = .ok (handle role).host :=
        (h'.of_live (withLaunched_of_mem hrole)).2.2
      rw [if_pos hrole, withLaunched_of_mem hrole, hm.unitOf_eq (hm.mem_roles hrole) hid]
    · rw [if_neg hrole, withLaunched, if_neg hrole]

/-! ### The phases -/

/-- Where the data of all sources is generated, all roles are still prepared and none is live. -/
theorem leads_generateData (h : m.OnStage results prepared noneLive sc)
    (hapart : m.image.IsApart) (hprepared : ∀ role ∈ m.topology.roles, role ∈ prepared)
    {Q : Except Error Unit → Scene → Prop}
    (herror : ∀ e sc', b.generation results point = .error e → Q (.error e) sc')
    (hok : ∀ sc', b.generation results point = .ok () →
      m.OnStage results prepared noneLive sc' → Q (.ok ()) sc') :
  sc.Leads (b.generateData m point) Q
  := by
  apply leads_bind
  apply leads_log
  apply leads_bind
  apply hm.leads_runSources h hprepared (fun _ _ => rfl)
  intro handle sc' h'
  apply leads_bind
  apply leads_commit h' hapart
  · rw [← hm.sources_eq]
    apply Topology.nodup_sources
  · intro role hrole
    apply hprepared role (hm.mem_roles hrole)
  · intro role hrole
    exact if_pos hrole
  · intro e sc' hmap
    apply herror
    simp only [generation, generated, hmap]
    rfl
  · intro all sc' hmap h'
    apply leads_log
    apply hok
    · simp only [generation, generated, hmap]
      rfl
    · convert h' using 1
      funext role
      split_ifs <;> rfl

theorem leads_startHelper (h : m.OnStage results prepared live sc)
    (hprepared : ∀ role ∈ m.topology.roles, role ∈ prepared) (hidle : live .helper = none)
    {Q : Except Error UnitHandle → Scene → Prop}
    (hQ : ∀ handle sc', m.OnStage results prepared
      (Function.update live .helper (some ⟨handle, b.helped results point⟩)) sc' →
        Q (.ok handle) sc') :
  sc.Leads (b.startHelper m point) Q
  := by
  have hmem : Role.helper ∈ m.topology.roles := Topology.helper_mem_roles
  apply leads_bind
  apply leads_log
  apply leads_bind
  rw [hm.withSources_eq]
  apply leads_ofExcept
  apply leads_bind
  apply hm.leads_runRole h hmem (hprepared _ hmem) hidle
  intro handle sc' h'
  apply leads_bind
  apply leads_pause
  apply leads_pure
  apply hQ handle sc' h'

theorem leads_startReceiver (h : m.OnStage results prepared live sc)
    (hprepared : ∀ role ∈ m.topology.roles, role ∈ prepared) (hidle : live .receiver = none)
    {Q : Except Error UnitHandle → Scene → Prop}
    (hQ : ∀ handle sc', m.OnStage results prepared
      (Function.update live .receiver (some ⟨handle, b.received results point⟩)) sc' →
        Q (.ok handle) sc') :
  sc.Leads (b.startReceiver m point) Q
  := by
  have hmem : Role.receiver ∈ m.topology.roles := Topology.receiver_mem_roles
  apply leads_bind
  rw [hm.withSources_eq]
  apply leads_ofExcept
  apply hm.leads_runRole h hmem (hprepared _ hmem) hidle hQ

theorem leads_startSources (h : m.OnStage results prepared live sc)
    (hprepared : ∀ role ∈ m.topology.roles, role ∈ prepared)
    (hidle : ∀ role ∈ point.sources, live role = none)
    {Q : Except Error (List UnitHandle) → Scene → Prop}
    (hQ : ∀ (handle : Role → UnitHandle) sc', m.OnStage results prepared (fun role =>
        if role ∈ point.sources then some ⟨handle role, b.served results point role⟩
        else live role) sc' → Q (.ok (point.sources.map handle)) sc') :
  sc.Leads (b.startSources m point) Q
  := hm.leads_runSources h hprepared hidle hQ

end Manages

/-! ### While the protocol runs -/

/-- The units of the protocol are live. -/
structure Serving (b : Benchmark) (results : HostId → LaunchSpec → UnitResult) (point : Point)
    (helper receiver : UnitHandle) (handle : Role → UnitHandle)
    (live : Role → Option LiveUnit) : Prop where
  live_helper : live .helper = some ⟨helper, b.helped results point⟩
  live_receiver : live .receiver = some ⟨receiver, b.received results point⟩
  live_source : ∀ role ∈ point.sources,
    live role = some ⟨handle role, b.served results point role⟩

/-- The stage behind the launches of the protocol. -/
def servingLive (b : Benchmark) (results : HostId → LaunchSpec → UnitResult) (point : Point)
    (helper receiver : UnitHandle) (handle : Role → UnitHandle) : Role → Option LiveUnit :=
  fun role =>
    if role ∈ point.sources then some ⟨handle role, b.served results point role⟩
    else
      Function.update
        (Function.update noneLive .helper (some ⟨helper, b.helped results point⟩)) .receiver
        (some ⟨receiver, b.received results point⟩) role

theorem serving_servingLive (helper receiver : UnitHandle) (handle : Role → UnitHandle) :
  b.Serving results point helper receiver handle
    (b.servingLive results point helper receiver handle)
  where
    live_helper := by simp [servingLive, Point.sources]
    live_receiver := by simp [servingLive, Point.sources]
    live_source := fun _ hrole => if_pos hrole

/-- Repeating what a unit prints only writes to the log. -/
theorem leads_echoPieces {pieces : List (Except Error String)}
    {Q : Except Error Unit → Scene → Prop} (hQ : Q (.ok ()) sc) :
  sc.Leads (echoPieces pieces) Q
  := by
  induction pieces with
  | nil => apply leads_pure hQ
  | cons piece rest ih =>
      cases piece with
      | error e => apply leads_log hQ
      | ok text =>
          apply leads_bind
          apply leads_forEach (fun _ => leads_echo)
          exact ih

section Serving

variable {helper receiver : UnitHandle} {handle : Role → UnitHandle}
  (hserving : b.Serving results point helper receiver handle live)

include hserving

theorem leads_echoHelper (h : m.OnStage results prepared live sc)
    {Q : Except Error Unit → Scene → Prop} (hQ : Q (.ok ()) sc) :
  sc.Leads (echoHelper m helper) Q
  := by
  apply leads_bind
  apply leads_attempt
  apply Manager.leads_follow h hserving.live_helper
  apply leads_echoPieces hQ

/-- The protocol is through when the receiver and all sources succeed. -/
theorem leads_awaitResult (h : m.OnStage results prepared live sc) {started : Nat}
    {Q : Except Error Unit → Scene → Prop}
    (hQ : ∀ sc', m.OnStage results prepared live sc' → Q (b.protocol results point) sc') :
  sc.Leads (awaitResult m helper receiver (point.sources.map handle) started) Q
  := by
  apply leads_bind
  apply leads_echoHelper hserving h
  apply leads_bind
  apply Manager.leads_wait h hserving.live_helper
  intro sc₁ h₁
  have hrest : sc₁.Leads (do
      m.ensureSuccess receiver
      let ended ← Job.now
      Job.log .info
        ("Done in " ++ secondsText (ended - started) ++ " seconds, checking results...")
      let _ ← Program.all ((point.sources.map handle).map m.ensureSuccess)) Q := by
    apply leads_bind
    apply Manager.leads_ensureSuccess h₁ hserving.live_receiver
    intro sc₂ h₂
    rw [protocol] at hQ
    cases hsuccess : success .receiver (b.received results point) with
    | error e =>
        rw [hsuccess] at hQ
        apply hQ sc₂ h₂
    | ok done =>
        rw [hsuccess] at hQ
        apply leads_bind
        apply leads_now
        intro ended
        apply leads_bind
        apply leads_log
        apply leads_bind
        apply Manager.leads_ensureSuccess_all h₂ hserving.live_source
        intro sc₃ h₃
        have hresult := hQ sc₃ h₃
        cases hall : point.sources.mapM fun role => success role (b.served results point role) with
        | error e =>
            rw [hall] at hresult
            exact hresult
        | ok all =>
            rw [hall] at hresult
            apply leads_pure hresult
  rw [Then]
  split_ifs
  · apply leads_bind
    apply leads_log
    exact hrest
  · exact hrest

/-- The verdict on what the receiver printed. -/
theorem leads_checkResult (hm : b.Manages point m) (h : m.OnStage results prepared live sc)
    {Q : Except Error Unit → Scene → Prop} (hQ : Q (b.comparison results point) sc) :
  sc.Leads (checkResult m point receiver) Q
  := by
  rw [comparison] at hQ
  apply leads_bind
  apply Manager.leads_logs h hserving.live_receiver
  rw [Memory.output_stdout]
  apply leads_bind
  rw [hm.sourceIds_eq]
  apply leads_ofExcept
  cases hexpected : Experiment.expectedResult point.sourceIds point.setSize point.joinSize
      point.seed with
  | error e =>
      rw [hexpected] at hQ
      exact hQ
  | ok expected =>
      rw [hexpected] at hQ
      replace hQ : Q (verify expected (receivedRows (b.received results point).stdout)) sc := hQ
      simp only [Then]
      cases hverify : verify expected (receivedRows (b.received results point).stdout) with
      | error e =>
          rw [hverify] at hQ
          apply leads_bind
          apply leads_log
          apply leads_bind
          apply leads_log
          apply leads_throw hQ
      | ok done =>
          rw [hverify] at hQ
          apply leads_log hQ

end Serving

/-! ### Collecting the statistics -/

theorem leads_unitStats (h : m.OnStage results prepared live sc) {role : Role} {unit : LiveUnit}
    (hunit : live role = some unit) {Q : Except Error (Option Json) → Scene → Prop}
    (hQ : Q (.ok (Statistics.collect role.id unit.result.stderr).2) sc) :
  sc.Leads (unitStats m unit.handle) Q
  := by
  apply leads_bind
  apply leads_attempt
  apply Manager.leads_logs h hunit
  rw [Memory.output_stderr, (h.of_live hunit).2.1]
  apply leads_bind
  apply leads_forEach (fun _ => leads_perform_log)
  apply leads_pure hQ

/-- The statistics of live units are collected under the names of their roles. -/
theorem leads_collectStats (h : m.OnStage results prepared live sc)
    {units : List (Role × LiveUnit)} (hunits : ∀ u ∈ units, live u.1 = some u.2)
    {found : List (String × Option Json)}
    {Q : Except Error (List (String × Option Json)) → Scene → Prop}
    (hQ : Q (.ok ((units.map fun u => (u.1, u.2.result)).foldl withStats found)) sc) :
  sc.Leads (collectStats m (units.map fun u => u.2.handle) found) Q
  := by
  induction units generalizing found with
  | nil => apply leads_pure hQ
  | cons unit rest ih =>
      obtain ⟨hunit, hrest⟩ := List.forall_mem_cons.mp hunits
      apply leads_bind
      apply leads_unitStats h hunit
      apply ih hrest
      rw [(h.of_live hunit).2.1]
      exact hQ

/-! ### Cleaning up -/

/-- Behind a finished point no unit with the label is left. -/
theorem leads_cleanUp (h : m.OnStage results prepared live sc)
    {Q : Except Error Unit → Scene → Prop}
    (hQ : ∀ sc', (∀ id ∈ m.fabric.hosts, Fabric.IsCleanAt m.label id sc') → Q (.ok ()) sc') :
  sc.Leads (cleanUp m point) Q
  := by
  apply leads_bind
  apply leads_attempt
  apply Manager.leads_cleanAll h.isReady
  intro n sc' h' hclean
  apply leads_pure
  apply hQ sc' hclean

/-! ### The whole experiment -/

/-- The first source stands for all sources. -/
theorem Manages.take_sources (hm : b.Manages point m) :
  point.sources.take 1 = [.source 0]
  := by
  have hne := hm.sources_ne
  rw [Point.sources] at hne ⊢
  cases hn : point.nSources with
  | zero => simp [hn] at hne
  | succ n => simp [List.range_succ_eq_map]

/-- The statistics of the units of the protocol make the record. -/
theorem leads_collectRecord {helper receiver : UnitHandle} {handle : Role → UnitHandle}
    (hm : b.Manages point m) (hserving : b.Serving results point helper receiver handle live)
    (h : m.OnStage results prepared live sc)
    {Q : Except Error (List (String × Option Json)) → Scene → Prop}
    (hQ : Q (.ok (b.record results point).nodesStats) sc) :
  sc.Leads (collectStats m ((point.sources.map handle).take 1 ++ [helper, receiver]) []) Q
  := by
  have hfirst : Role.source 0 ∈ point.sources := by
    apply List.mem_of_mem_take
    rw [hm.take_sources]
    exact List.mem_singleton_self _
  rw [← List.map_take, hm.take_sources]
  have hunits : ∀ u ∈ [(Role.source 0, LiveUnit.mk (handle (.source 0))
        (b.served results point (.source 0))),
      (.helper, ⟨helper, b.helped results point⟩),
      (.receiver, ⟨receiver, b.received results point⟩)], live u.1 = some u.2 := by
    simp only [List.forall_mem_cons, List.not_mem_nil, false_implies, implies_true, and_true]
    exact ⟨hserving.live_source _ hfirst, hserving.live_helper, hserving.live_receiver⟩
  apply leads_collectStats h hunits hQ

/-- Behind the generation of the data the protocol gives the rest of the verdict. -/
theorem leads_rest (hm : b.Manages point m) (h : m.OnStage results prepared noneLive sc)
    (hprepared : ∀ role ∈ m.topology.roles, role ∈ prepared)
    {Q : Except Error ResultRecord → Scene → Prop}
    (herror : ∀ e sc', (b.protocol results point = .error e
      ∨ b.protocol results point = .ok () ∧ b.comparison results point = .error e) →
        Q (.error e) sc')
    (hok : ∀ sc', b.protocol results point = .ok () → b.comparison results point = .ok () →
      (∀ id ∈ m.fabric.hosts, Fabric.IsCleanAt m.label id sc') →
        Q (.ok (b.record results point)) sc') :
  sc.Leads (do
    let helper ← b.startHelper m point
    Job.log .info "Running receiver and sources"
    let started ← Job.now
    let receiver ← b.startReceiver m point
    let sources ← b.startSources m point
    awaitResult m helper receiver sources started
    checkResult m point receiver
    let stats ← collectStats m (sources.take 1 ++ [helper, receiver]) []
    cleanUp m point
    return ⟨point.nSources, point.setSize, point.joinSize, point.rep, stats⟩) Q
  := by
  apply leads_bind
  apply hm.leads_startHelper h hprepared rfl
  intro helper sc₁ h₁
  apply leads_bind
  apply leads_log
  apply leads_bind
  apply leads_now
  intro started
  apply leads_bind
  apply hm.leads_startReceiver h₁ hprepared rfl
  intro receiver sc₂ h₂
  apply leads_bind
  apply hm.leads_startSources h₂ hprepared
  · intro role hrole
    obtain ⟨i, -, rfl⟩ := List.mem_map.mp hrole
    rfl
  · intro handle sc₃ h₃
    have hserving : b.Serving results point helper receiver handle _ :=
      serving_servingLive helper receiver handle
    apply leads_bind
    apply leads_awaitResult hserving h₃
    intro sc₄ h₄
    cases hprotocol : b.protocol results point with
    | error e => apply herror e sc₄ (.inl hprotocol)
    | ok done =>
        apply leads_bind
        apply leads_checkResult hserving hm h₄
        cases hcomparison : b.comparison results point with
        | error e => apply herror e sc₄ (.inr ⟨hprotocol, hcomparison⟩)
        | ok done =>
            apply leads_bind
            apply leads_collectRecord hm hserving h₄
            apply leads_bind
            apply leads_cleanUp h₄
            intro sc₅ hclean
            apply leads_pure
            apply hok sc₅ hprotocol hcomparison hclean

/-- On ready hosts an experiment yields its verdict, whatever else the hosts hold, and where it
yields a record no unit with the label is left. -/
theorem leads_runPoint (hready : b.fabric.IsReady results b.env.image.base b.env.containerLabel sc)
    (hapart : b.env.image.IsApart) {Q : Except Error ResultRecord → Scene → Prop}
    (herror : ∀ e sc', b.verdict results point = .error e → Q (.error e) sc')
    (hok : ∀ record sc', b.verdict results point = .ok record →
      (∀ id ∈ b.fabric.hosts, Fabric.IsCleanAt b.env.containerLabel id sc') →
        Q (.ok record) sc') :
  sc.Leads (b.runPoint point) Q
  := by
  rw [verdict] at herror hok
  apply leads_bind
  cases hmanager : b.manager point.nSources with
  | error e =>
      rw [hmanager] at herror
      apply leads_ofExcept
      apply herror e sc rfl
  | ok m =>
      have hm := manages_of_manager hmanager
      rw [hmanager] at herror hok
      replace herror : ∀ e sc', b.verdictUnder results point m = .error e → Q (.error e) sc' :=
        herror
      rw [← hm.image_eq] at hapart
      rw [← hm.fabric_eq, ← hm.label_eq] at hok
      replace hok : ∀ record sc', b.verdictUnder results point m = .ok record →
        (∀ id ∈ m.fabric.hosts, Fabric.IsCleanAt m.label id sc') → Q (.ok record) sc' := hok
      rw [← hm.image_eq, ← hm.label_eq, ← hm.fabric_eq] at hready
      replace hready :
          m.fabric.IsReady results m.image.base m.label ⟨sc.hosts, fun _ => .noImage⟩ := hready
      apply leads_ofExcept
      apply leads_bind
      apply leads_forgetStates
      apply leads_bind
      apply Manager.leads_cleanAll hready
      intro n sc₁ h₁ _
      apply leads_bind
      apply leads_prepareRoles h₁ hapart
      · intro e sc₂ hhosts
        apply herror
        simp only [verdictUnder, hhosts]
        rfl
      · intro ids prepared sc₂ hhosts hprepared h₂
        replace hprepared : ∀ role ∈ m.topology.roles, role ∈ prepared :=
          fun role hrole => hprepared role (.inr hrole)
        apply leads_bind
        apply leads_pause
        apply leads_bind
        apply hm.leads_generateData h₂ hapart hprepared
        · intro e sc₃ hgeneration
          apply herror
          simp only [verdictUnder, hhosts, hgeneration]
          rfl
        · intro sc₃ hgeneration h₃
          apply leads_rest hm h₃ hprepared
          · rintro e sc₄ (hprotocol | ⟨hprotocol, hcomparison⟩)
            · apply herror
              simp only [verdictUnder, hhosts, hgeneration, hprotocol]
              rfl
            · apply herror
              simp only [verdictUnder, hhosts, hgeneration, hprotocol, hcomparison]
              rfl
          · intro sc₄ hprotocol hcomparison hclean
            apply hok _ sc₄ _ hclean
            simp only [verdictUnder, hhosts, hgeneration, hprotocol, hcomparison]
            rfl

end Benchmark

end JoinBench
