import JoinBench.Proofs.Lifecycle.Outcomes
import JoinBench.Proofs.Lifecycle.Stage

/-!
# Operations on a stage

Every operation of a manager on a stage has one spec: what it yields, and the stage behind it.
Where it yields an error, the error is that of a unit whose status is not zero, or of a host that
does not belong to the fabric.
-/

namespace JoinBench.Manager

open Host Scene

variable {m : Manager} {results : HostId → LaunchSpec → UnitResult} {prepared : List Role}
  {live : Role → Option LiveUnit} {sc : Scene} {role : Role}

/-! ### Launching -/

/-- The unit behind a handle that launching a role has yielded. -/
def unitOf (m : Manager) (results : HostId → LaunchSpec → UnitResult) (command : String)
    (flags : UnitFlags) (role : Role) (handle : UnitHandle) : LiveUnit :=
  ⟨handle, results handle.host (m.launchSpec role (lineOf command flags role))⟩

/-- A role that is prepared and not live is launched. -/
theorem leads_runRole (h : m.OnStage results prepared live sc) (hrole : role ∈ prepared)
    (hidle : live role = none) {command : String} {flags : UnitFlags}
    {Q : Except Error UnitHandle → Scene → Prop}
    (hQ : ∀ handle sc', m.OnStage results prepared
      (Function.update live role (some (m.unitOf results command flags role handle))) sc' →
        Q (.ok handle) sc') :
  sc.Leads (m.runRole role command flags) Q
  := by
  obtain ⟨-, id, hid⟩ := h.placed hrole
  obtain ⟨host, hhost, hholds⟩ := h.exists_hostFor hid
  have hunique : ∀ {other : HostId} {found : Memory}, m.hostFor role = .ok other →
      sc.hosts other = some found → other = id ∧ found = host := by
    intro other found hother hfound
    rw [hid] at hother
    cases hother
    exact ⟨rfl, Option.some_inj.mp (hfound.symm.trans hhost)⟩
  apply Story.leads_of_goes
  apply goes_runRole h.isThere
  · intro e hunplaced
    rw [hid] at hunplaced
    cases hunplaced
  · intro e hrefused
    rw [h.canLaunch hrole hidle] at hrefused
    cases hrefused
  · intro other found e hother hfound hfailed
    obtain ⟨rfl, rfl⟩ := hunique hother hfound
    rw [specFor, hholds.launch_eq hrole hid hidle] at hfailed
    cases hfailed
  · rintro other found _ hother hfound - - - rfl
    obtain ⟨rfl, rfl⟩ := hunique hother hfound
    apply hQ
    have hunit : m.unitOf results command flags role
        (Holds.newUnit m (results other) role (lineOf command flags role) found).handle
      = Holds.newUnit m (results other) role (lineOf command flags role) found := by
      rw [unitOf, Holds.newUnit, hholds.id_eq]
    have hlaunched := hholds.launch hrole hid hidle (lineOf command flags role)
    rw [← hunit] at hlaunched
    apply h.step hid hlaunched
    · exact fun _ hother _ => hother
    · intro other hne
      rw [Function.update_of_ne hne]
    · intro hnone
      rw [Function.update_self] at hnone
      cases hnone
    · intro unit hsome
      rw [Function.update_self] at hsome
      cases hsome
      use rfl, hholds.id_eq

/-- The live units behind the launch of several roles, given their handles. -/
def withLaunched (m : Manager) (results : HostId → LaunchSpec → UnitResult) (command : String)
    (flags : UnitFlags) (roles : List Role) (handle : Role → UnitHandle)
    (live : Role → Option LiveUnit) : Role → Option LiveUnit :=
  fun role =>
    if role ∈ roles then some (m.unitOf results command flags role (handle role)) else live role

theorem withLaunched_of_mem {command : String} {flags : UnitFlags} {roles : List Role}
    {handle : Role → UnitHandle} (h : role ∈ roles) :
  m.withLaunched results command flags roles handle live role
    = some (m.unitOf results command flags role (handle role))
  := if_pos h

/-- Several roles that are prepared and not live are launched together. -/
theorem leads_runAll {roles : List Role} (h : m.OnStage results prepared live sc)
    (hroles : ∀ role ∈ roles, role ∈ prepared) (hidle : ∀ role ∈ roles, live role = none)
    (hnodup : roles.Nodup) {command : String} {flags : UnitFlags}
    {Q : Except Error (List UnitHandle) → Scene → Prop}
    (hQ : ∀ (handle : Role → UnitHandle) sc',
      m.OnStage results prepared (m.withLaunched results command flags roles handle live) sc' →
        Q (.ok (roles.map handle)) sc') :
  sc.Leads (m.runAll command roles flags) Q
  := by
  apply leads_all
  induction roles generalizing live sc Q with
  | nil =>
      apply leads_pure
      apply hQ (fun role => ⟨⟨""⟩, "", role.id⟩)
      convert h using 1
      funext role
      simp [withLaunched]
  | cons role rest ih =>
      obtain ⟨hrole, hrest⟩ := List.forall_mem_cons.mp hroles
      obtain ⟨hnone, hnones⟩ := List.forall_mem_cons.mp hidle
      obtain ⟨hnotMem, hnodup⟩ := List.nodup_cons.mp hnodup
      apply leads_bind
      apply leads_runRole h hrole hnone
      intro handle sc₁ h₁
      apply leads_bind
      apply ih h₁ hrest _ hnodup
      · intro handles sc₂ h₂
        apply leads_pure
        have hhandles : handle :: rest.map handles
          = (role :: rest).map (Function.update handles role handle) := by
          rw [List.map_cons, Function.update_self]
          congr 1
          apply List.map_congr_left
          intro other hother
          rw [Function.update_of_ne]
          rintro rfl
          exact hnotMem hother
        rw [hhandles]
        apply hQ
        convert h₂ using 1
        funext other
        by_cases hother : other = role
        · subst hother
          simp [withLaunched, hnotMem]
        · simp [withLaunched, hother]
      · intro other hother
        rw [Function.update_of_ne]
        · apply hnones other hother
        · rintro rfl
          exact hnotMem hother

/-! ### Waiting -/

/-- A live unit is found on its host. -/
theorem OnStage.exists_finds {unit : LiveUnit} (h : m.OnStage results prepared live sc)
    (hunit : live role = some unit) :
  ∃ host, m.Finds sc unit.handle role host ⟨role.id.text, [m.label], unit.result⟩
    ∧ m.Holds (results unit.handle.host) prepared live unit.handle.host host
  := by
  obtain ⟨hmem, hname, hid⟩ := h.of_live hunit
  obtain ⟨host, hhost, hholds⟩ := h.exists_hostFor hid
  refine ⟨host, ?_, hholds⟩
  constructor
  · exact roleOf_eq_ok hmem hname
  · exact fabric_host_eq_ok (mem_hosts_of_hostFor hid)
  · exact hhost
  · exact hholds.getElem?_units hunit hid

theorem OnStage.exit {unit : LiveUnit} (h : m.OnStage results prepared live sc)
    (hunit : live role = some unit) (status : Int) :
  m.OnStage results prepared live (sc.exit role unit.handle status)
  := by
  rw [Scene.exit]
  split_ifs
  · exact h.setState hunit _
  · exact h

theorem leads_wait {unit : LiveUnit} (h : m.OnStage results prepared live sc)
    (hunit : live role = some unit) {Q : Except Error Int → Scene → Prop}
    (hQ : ∀ sc', m.OnStage results prepared live sc' → Q (.ok unit.result.status) sc') :
  sc.Leads (m.wait unit.handle) Q
  := by
  obtain ⟨host, hfinds, -⟩ := h.exists_finds hunit
  apply hfinds.leads_wait
  exact hQ _ (h.exit hunit _)

theorem leads_logs {unit : LiveUnit} (h : m.OnStage results prepared live sc)
    (hunit : live role = some unit) {select : LogSelect} {Q : Except Error String → Scene → Prop}
    (hQ : Q (.ok (Memory.output select unit.result)) sc) :
  sc.Leads (m.logs unit.handle select) Q
  := by
  obtain ⟨host, hfinds, -⟩ := h.exists_finds hunit
  exact hfinds.leads_logs hQ

theorem leads_follow {unit : LiveUnit} (h : m.OnStage results prepared live sc)
    (hunit : live role = some unit) {Q : Except Error (List (Except Error String)) → Scene → Prop}
    (hQ : Q (.ok (Memory.pieces unit.result)) sc) :
  sc.Leads (m.follow unit.handle) Q
  := by
  obtain ⟨host, hfinds, -⟩ := h.exists_finds hunit
  exact hfinds.leads_follow hQ

/-- Waiting for a unit to succeed leaves the stage as it was, also where it does not. -/
theorem leads_ensureSuccess {unit : LiveUnit} (h : m.OnStage results prepared live sc)
    (hunit : live role = some unit) {Q : Except Error Unit → Scene → Prop}
    (hQ : ∀ sc', m.OnStage results prepared live sc' → Q (success role unit.result) sc') :
  sc.Leads (m.ensureSuccess unit.handle) Q
  := by
  obtain ⟨host, hfinds, -⟩ := h.exists_finds hunit
  apply hfinds.leads_ensureSuccess
  exact hQ _ (h.exit hunit _)

/-- Waiting for several units to succeed yields the first error among them. -/
theorem leads_ensureSuccess_all {roles : List Role} {handle : Role → UnitHandle}
    {result : Role → UnitResult} (h : m.OnStage results prepared live sc)
    (hlive : ∀ role ∈ roles, live role = some ⟨handle role, result role⟩)
    {Q : Except Error (List Unit) → Scene → Prop}
    (hQ : ∀ sc', m.OnStage results prepared live sc' →
      Q (roles.mapM fun role => success role (result role)) sc') :
  sc.Leads (Program.all ((roles.map handle).map m.ensureSuccess)) Q
  := by
  apply leads_all
  induction roles generalizing sc Q with
  | nil =>
      apply leads_pure
      apply hQ _ h
  | cons role rest ih =>
      obtain ⟨hrole, hrest⟩ := List.forall_mem_cons.mp hlive
      apply leads_bind
      apply leads_ensureSuccess h hrole
      intro sc₁ h₁
      rw [List.mapM_cons] at hQ
      cases hsuccess : success role (result role) with
      | error e =>
          rw [hsuccess] at hQ
          apply hQ _ h₁
      | ok done =>
          rw [hsuccess] at hQ
          apply leads_bind
          apply ih h₁ hrest
          intro sc₂ h₂
          have hresult := hQ sc₂ h₂
          cases hmap : rest.mapM fun role => success role (result role) with
          | error e =>
              rw [hmap] at hresult
              exact hresult
          | ok all =>
              rw [hmap] at hresult
              apply leads_pure hresult

/-! ### Checkpoints -/

/-- A unit that succeeds is made the checkpoint of its role and removed. -/
theorem leads_commitUnit {unit : LiveUnit} (h : m.OnStage results prepared live sc)
    (hapart : m.image.IsApart) (hrole : role ∈ prepared) (hunit : live role = some unit)
    {Q : Except Error Unit → Scene → Prop}
    (hQ : ∀ sc', (success role unit.result = .ok () →
      m.OnStage results prepared (Function.update live role none) sc') →
        Q (success role unit.result) sc') :
  sc.Leads (m.commitUnit unit.handle) Q
  := by
  obtain ⟨host, hfinds, hholds⟩ := h.exists_finds hunit
  obtain ⟨-, -, hid⟩ := h.of_live hunit
  have hcheckpoint := hholds.checkpoint_mem role hrole hid
  apply Story.leads_of_goes
  apply hfinds.goes_commitUnit
  · rintro e (hfailed | hmissing)
    · rw [hfailed] at hQ
      apply hQ
      rintro ⟨⟩
    · exact absurd hcheckpoint hmissing
  · intro hstatus _
    rw [success_eq_ok.mpr hstatus] at hQ
    apply hQ
    intro _
    apply h.step hid
    · -- The images that were there are there again, only the stale one is not.
      have hkept : ∀ {image : ImageRef}, image ∈ host.images → m.stale role ≠ image →
          ∀ new, image ∈ (host.images.insert (m.checkpoint role) new).erase (m.stale role) := by
        intro image himage hne new
        rw [Std.ExtTreeMap.mem_erase, Std.ExtTreeMap.mem_insert]
        use by simpa using hne
        exact .inr himage
      apply (hholds.remove hunit hid).withImages
      · apply hkept hholds.ready.base_mem (stale_ne_base (hapart role))
      · intro other hother hplace
        apply hkept (hholds.checkpoint_mem other hother hplace) (stale_ne_checkpoint m role other)
      · apply Nat.le_succ
    · exact fun _ hother _ => hother
    · intro other hne
      rw [Function.update_of_ne hne]
    · exact fun _ => ⟨rfl, rfl⟩
    · intro unit hsome
      rw [Function.update_self] at hsome
      cases hsome

/-- Several units are made the checkpoints of their roles, up to the first that does not
succeed. -/
theorem leads_commitUnits {roles : List Role} {handle : Role → UnitHandle}
    {result : Role → UnitResult} (h : m.OnStage results prepared live sc)
    (hapart : m.image.IsApart) (hnodup : roles.Nodup) (hroles : ∀ role ∈ roles, role ∈ prepared)
    (hlive : ∀ role ∈ roles, live role = some ⟨handle role, result role⟩)
    {Q : Except Error (List Unit) → Scene → Prop}
    (hQ : ∀ sc', (∀ all, (roles.mapM fun role => success role (result role)) = .ok all →
      m.OnStage results prepared (fun role => if role ∈ roles then none else live role) sc') →
        Q (roles.mapM fun role => success role (result role)) sc') :
  sc.Leads (Program.sequence ((roles.map handle).map m.commitUnit)) Q
  := by
  induction roles generalizing live sc Q with
  | nil =>
      apply leads_pure
      apply hQ
      intro all hall
      convert h using 1
      funext role
      simp
  | cons role rest ih =>
      obtain ⟨hrole, hrest⟩ := List.forall_mem_cons.mp hroles
      obtain ⟨hunit, hunits⟩ := List.forall_mem_cons.mp hlive
      obtain ⟨hnotMem, hnodup⟩ := List.nodup_cons.mp hnodup
      have hne : ∀ other ∈ rest, other ≠ role := by
        rintro other hother rfl
        exact hnotMem hother
      rw [List.mapM_cons] at hQ
      apply leads_bind
      apply leads_commitUnit h hapart hrole hunit
      intro sc₁ h₁
      cases hsuccess : success role (result role) with
      | error e =>
          rw [hsuccess] at hQ
          apply hQ
          intro all hall
          cases hall
      | ok done =>
          rw [hsuccess] at hQ h₁
          apply leads_bind
          apply ih (h₁ rfl) hnodup hrest
          · intro other hother
            rw [Function.update_of_ne (hne other hother)]
            apply hunits other hother
          · intro sc₂ h₂
            have hresult := hQ sc₂
            cases hmap : rest.mapM fun role => success role (result role) with
            | error e =>
                rw [hmap] at hresult
                apply hresult
                intro all hall
                cases hall
            | ok all =>
                rw [hmap] at hresult
                apply leads_pure
                apply hresult
                intro _ _
                convert h₂ all hmap using 1
                funext other
                by_cases hother : other = role
                · subst hother
                  simp
                · simp [hother]

/-- Several units that all succeed are made the checkpoints of their roles and removed. -/
theorem leads_commit {roles : List Role} {handle : Role → UnitHandle}
    {result : Role → UnitResult} (h : m.OnStage results prepared live sc)
    (hapart : m.image.IsApart) (hnodup : roles.Nodup) (hroles : ∀ role ∈ roles, role ∈ prepared)
    (hlive : ∀ role ∈ roles, live role = some ⟨handle role, result role⟩)
    {Q : Except Error Unit → Scene → Prop}
    (herror : ∀ e sc', (roles.mapM fun role => success role (result role)) = .error e →
      Q (.error e) sc')
    (hok : ∀ all sc', (roles.mapM fun role => success role (result role)) = .ok all →
      m.OnStage results prepared (fun role => if role ∈ roles then none else live role) sc' →
        Q (.ok ()) sc') :
  sc.Leads (m.commit (roles.map handle)) Q
  := by
  apply leads_bind
  apply leads_all
  apply leads_commitUnits h hapart hnodup hroles hlive
  intro sc' h'
  cases hall : roles.mapM fun role => success role (result role) with
  | error e => apply herror e sc' hall
  | ok all =>
      apply leads_pure
      apply hok all sc' hall (h' all hall)

end JoinBench.Manager
