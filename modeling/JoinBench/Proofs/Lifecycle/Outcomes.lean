import JoinBench.Proofs.Fabric
import JoinBench.Proofs.Lifecycle.Actions
import JoinBench.Proofs.UnitFlags
import JoinBench.Proofs.World.Story

/-!
# Operations on any hosts

Whatever its hosts hold, whichever of them are down and whatever the states of the roles are, an
operation of a manager is refused, fails at one of its requests, or does all of its work.  Every
operation has one spec, which says when each of these is the case; operations on units have one for
units that are found and one for those that are not.
-/

namespace JoinBench

open Host

/-- The scene behind a wait for a unit: the role exits if it still runs the unit. -/
def Scene.exit (sc : Scene) (role : Role) (unit : UnitHandle) (status : Int) : Scene :=
  if sc.states role = .running unit then sc.setState role (.exited unit status) else sc

@[simp]
theorem Scene.hosts_exit (sc : Scene) (role : Role) (unit : UnitHandle) (status : Int) :
  (sc.exit role unit status).hosts = sc.hosts
  := by
  rw [exit]
  split_ifs <;> rfl

namespace Manager

variable {m : Manager} {sc : Scene} {st : Story} {role : Role} {unit : UnitHandle}

/-! ### Waiting -/

section Waiting

open Scene

/-- A unit is found: its role, the host that keeps it and what is kept. -/
structure Finds (m : Manager) (sc : Scene) (unit : UnitHandle) (role : Role) (host : Memory)
    (u : KeptUnit) : Prop where
  roleOf_eq : m.roleOf unit = .ok role
  fabric_host_eq : m.fabric.host unit.host = .ok unit.host
  hosts_eq : sc.hosts unit.host = some host
  getElem?_units : host.units[unit.unitId]? = some u

/-- A unit is not found. -/
def IsLost (m : Manager) (sc : Scene) (unit : UnitHandle) : Prop :=
  ∀ role host u, ¬ m.Finds sc unit role host u

theorem isLost_or_finds (m : Manager) (sc : Scene) (unit : UnitHandle) :
  m.IsLost sc unit ∨ ∃ role host u, m.Finds sc unit role host u
  := by
  by_cases hfinds : ∃ role host u, m.Finds sc unit role host u
  · exact .inr hfinds
  · exact .inl fun role host u h => hfinds ⟨role, host, u, h⟩

/-- What waiting for a unit to succeed yields: an error with its output if its status is not
zero. -/
def success (role : Role) (result : UnitResult) : Except Error Unit :=
  if result.status = 0 then .ok ()
  else .error (.unitRun role.id result.status (result.stdout ++ result.stderr))

theorem success_eq_ok {result : UnitResult} :
  success role result = .ok () ↔ result.status = 0
  := by
  rw [success]
  split_ifs with hstatus
  · exact ⟨fun _ => hstatus, fun _ => rfl⟩
  · constructor
    · rintro ⟨⟩
    · intro hzero
      exact absurd hzero hstatus

namespace Finds

variable {host : Memory} {u : KeptUnit}

theorem exit (h : m.Finds sc unit role host u) (status : Int) :
  m.Finds (sc.exit role unit status) unit role host u
  := by
  refine ⟨h.roleOf_eq, h.fabric_host_eq, ?_, h.getElem?_units⟩
  rw [hosts_exit, h.hosts_eq]

/-- Waiting for a unit that is found yields its status, and its role may exit. -/
theorem leads_wait (h : m.Finds sc unit role host u) {Q : Except Error Int → Scene → Prop}
    (hQ : Q (.ok u.result.status) (sc.exit role unit u.result.status)) :
  sc.Leads (m.wait unit) Q
  := by
  rw [wait, h.roleOf_eq, h.fabric_host_eq]
  apply leads_bind
  apply leads_ofExcept
  apply leads_bind
  apply leads_ofExcept
  apply leads_bind
  apply Scene.leads_wait h.hosts_eq h.getElem?_units
  apply leads_bind
  apply leads_stateOf
  rw [Scene.exit] at hQ
  by_cases hstate : sc.states role = .running unit
  · rw [if_pos hstate] at hQ
    rw [Then, if_pos hstate]
    apply leads_bind
    apply leads_setState
    apply leads_pure hQ
  · rw [if_neg hstate] at hQ
    rw [Then, if_neg hstate]
    apply leads_pure hQ

theorem leads_logs (h : m.Finds sc unit role host u) {select : LogSelect}
    {Q : Except Error String → Scene → Prop}
    (hQ : Q (.ok (Memory.output select u.result)) sc) :
  sc.Leads (m.logs unit select) Q
  := by
  rw [logs, h.fabric_host_eq]
  apply leads_bind
  apply leads_ofExcept
  exact Scene.leads_logs h.hosts_eq h.getElem?_units hQ

theorem leads_follow (h : m.Finds sc unit role host u)
    {Q : Except Error (List (Except Error String)) → Scene → Prop}
    (hQ : Q (.ok (Memory.pieces u.result)) sc) :
  sc.Leads (m.follow unit) Q
  := by
  rw [follow, h.fabric_host_eq]
  apply leads_bind
  apply leads_ofExcept
  exact Scene.leads_follow h.hosts_eq h.getElem?_units hQ

/-- Waiting for a unit that is found to succeed is a matter of its status. -/
theorem leads_ensureSuccess (h : m.Finds sc unit role host u)
    {Q : Except Error Unit → Scene → Prop}
    (hQ : Q (success role u.result) (sc.exit role unit u.result.status)) :
  sc.Leads (m.ensureSuccess unit) Q
  := by
  rw [ensureSuccess]
  apply leads_bind
  apply h.leads_wait
  rw [success] at hQ
  rw [Then]
  by_cases hstatus : u.result.status = 0
  · rw [if_pos hstatus] at hQ
    rw [if_neg (not_not.mpr hstatus)]
    apply leads_pure hQ
  · rw [if_neg hstatus] at hQ
    rw [if_pos hstatus]
    apply leads_bind
    apply leads_attempt
    apply (h.exit _).leads_logs
    apply leads_throw
    rw [role_eq_of_roleOf h.roleOf_eq]
    exact hQ

end Finds

/-- Waiting for a unit that is not found fails. -/
theorem IsLost.leads_wait (h : m.IsLost sc unit) (hthere : m.fabric.IsThere sc)
    {Q : Except Error Int → Scene → Prop} (hQ : ∀ e, Q (.error e) sc) :
  sc.Leads (m.wait unit) Q
  := by
  rw [wait]
  apply leads_bind
  apply leads_ofExcept
  cases hrole : m.roleOf unit with
  | error e => exact hQ e
  | ok role =>
      apply leads_bind
      apply leads_ofExcept
      cases hfabric : m.fabric.host unit.host with
      | error e => exact hQ e
      | ok id =>
          obtain rfl := Fabric.eq_of_host hfabric
          obtain ⟨host, hhost⟩ := hthere unit.host (m.mem_hosts_of_fabric_host hfabric)
          cases hunit : host.units[unit.unitId]? with
          | some u => exact absurd ⟨hrole, hfabric, hhost, hunit⟩ (h role host u)
          | none =>
              apply leads_bind
              apply leads_bind
              apply leads_ask hhost
              apply leads_ofExcept
              simp only [Memory.answer, hunit, setHost_eq_self hhost]
              exact hQ _

theorem IsLost.leads_ensureSuccess (h : m.IsLost sc unit) (hthere : m.fabric.IsThere sc)
    {Q : Except Error Unit → Scene → Prop} (hQ : ∀ e, Q (.error e) sc) :
  sc.Leads (m.ensureSuccess unit) Q
  := by
  rw [ensureSuccess]
  apply leads_bind
  exact h.leads_wait hthere hQ

end Waiting

/-! ### Resetting -/

section Resetting

open Scene

/-- A host without the checkpoint and the stale image of a role. -/
def untagged (m : Manager) (role : Role) (host : Memory) : Memory :=
  { host with images := (host.images.erase (m.checkpoint role)).erase (m.stale role) }

/-- A host with an image as the checkpoint of a role, and without the stale image. -/
def retagged (m : Manager) (role : Role) (image : Nat) (host : Memory) : Memory :=
  { m.untagged role host with
    images := (m.untagged role host).images.insert (m.checkpoint role) image }

theorem getElem?_images_untagged {host : Memory} {ref : ImageRef}
    (hcheckpoint : m.checkpoint role ≠ ref) (hstale : m.stale role ≠ ref) :
  (m.untagged role host).images[ref]? = host.images[ref]?
  := by
  simp [untagged, Std.ExtTreeMap.getElem?_erase, hcheckpoint, hstale]

theorem mem_images_untagged {host : Memory} {image : ImageRef}
    (hcheckpoint : m.checkpoint role ≠ image) (hstale : m.stale role ≠ image) :
  image ∈ (m.untagged role host).images ↔ image ∈ host.images
  := by
  rw [Std.ExtTreeMap.mem_iff_isSome_getElem?, getElem?_images_untagged hcheckpoint hstale,
    Std.ExtTreeMap.mem_iff_isSome_getElem?]

theorem base_mem_untagged {host : Memory} (hapart : m.image.IsApartFrom role) :
  m.image.base ∈ (m.untagged role host).images ↔ m.image.base ∈ host.images
  := mem_images_untagged (checkpoint_ne_base hapart) (stale_ne_base hapart)

theorem getElem?_images_retagged {host : Memory} {image : Nat} {ref : ImageRef}
    (hstale : m.stale role ≠ ref) :
  (m.retagged role image host).images[ref]?
    = if m.checkpoint role = ref then some image else host.images[ref]?
  := by
  rw [retagged, Std.ExtTreeMap.getElem?_insert]
  by_cases heq : m.checkpoint role = ref
  · simp [heq]
  · simp [heq, getElem?_images_untagged heq hstale]

/-- Putting a role back is refused where the role is busy or not placed, fails where there is no
base image left, and is done else. -/
theorem leads_prepareImage_of_isThere (hthere : m.fabric.IsThere sc)
    {Q : Except Error Unit → Scene → Prop}
    (hbusy : (sc.states role).isBusy = true → Q (.error (.lifecycle role.id .imageInUse)) sc)
    (hunplaced : ∀ e, (sc.states role).isBusy = false → m.hostFor role = .error e →
      Q (.error e) sc)
    (hfailed : ∀ id host e, (sc.states role).isBusy = false → m.hostFor role = .ok id →
      sc.hosts id = some host → m.image.base ∉ (m.untagged role host).images →
        Q (.error e) (sc.setHost id (m.untagged role host)))
    (hprepared : ∀ id host image, (sc.states role).isBusy = false → m.hostFor role = .ok id →
      sc.hosts id = some host → (m.untagged role host).images[m.image.base]? = some image →
        Q (.ok ()) ((sc.setHost id (m.retagged role image host)).setState role .baseImage)) :
  sc.Leads (m.prepareImage role) Q
  := by
  rw [prepareImage]
  apply leads_bind
  apply leads_stateOf
  rw [Then]
  cases hstate : (sc.states role).isBusy with
  | true =>
      apply leads_bind
      apply leads_throw
      exact hbusy hstate
  | false =>
      apply leads_check (by simp)
      cases hid : m.hostFor role with
      | error e =>
          apply leads_bind
          apply leads_ofExcept
          exact hunplaced e hstate hid
      | ok id =>
          obtain ⟨host, hhost⟩ := hthere id (mem_hosts_of_hostFor hid)
          apply leads_bind
          apply leads_ofExcept
          apply leads_bind
          apply leads_removeImage hhost
          apply leads_bind
          apply leads_removeImage (hosts_setHost_self _ _ _)
          rw [setHost_setHost]
          apply leads_bind
          cases hbase : (m.untagged role host).images[m.image.base]? with
          | none =>
              have hmissing : m.image.base ∉ (m.untagged role host).images := by
                rw [Std.ExtTreeMap.mem_iff_isSome_getElem?, hbase]
                simp
              apply leads_tag_of_eq_none (hosts_setHost_self _ _ _) hbase
              intro e
              exact hfailed id host e hstate hid hhost hmissing
          | some image =>
              apply leads_tag (hosts_setHost_self _ _ _) hbase
              rw [setHost_setHost]
              apply leads_bind
              apply leads_setState
              apply leads_log
              exact hprepared id host image hstate hid hhost hbase

/-- A role that is placed and not busy is put back, unless there is no base image left once its own
images are dropped. -/
theorem leads_prepareImage_of_hostFor (hthere : m.fabric.IsThere sc) {id : HostId} {host : Memory}
    (hid : m.hostFor role = .ok id) (hhost : sc.hosts id = some host)
    (hbusy : (sc.states role).isBusy = false) {Q : Except Error Unit → Scene → Prop}
    (hfailed : ∀ e, m.image.base ∉ (m.untagged role host).images →
      Q (.error e) (sc.setHost id (m.untagged role host)))
    (hprepared : ∀ image, (m.untagged role host).images[m.image.base]? = some image →
      Q (.ok ()) ((sc.setHost id (m.retagged role image host)).setState role .baseImage)) :
  sc.Leads (m.prepareImage role) Q
  := by
  have hsame : ∀ {other : HostId} {found : Memory}, m.hostFor role = .ok other →
      sc.hosts other = some found → other = id ∧ found = host := by
    intro other found hother hfound
    obtain rfl := Except.ok.inj (hid.symm.trans hother)
    exact ⟨rfl, Option.some_inj.mp (hfound.symm.trans hhost)⟩
  apply leads_prepareImage_of_isThere hthere
  · intro h
    rw [hbusy] at h
    cases h
  · intro e _ h
    rw [hid] at h
    cases h
  · intro other found e _ hother hfound hmissing
    obtain ⟨rfl, rfl⟩ := hsame hother hfound
    exact hfailed e hmissing
  · intro other found image _ hother hfound himage
    obtain ⟨rfl, rfl⟩ := hsame hother hfound
    exact hprepared image himage

end Resetting

/-! ### Launching -/

section Launching

open Story Program

/-- The command line of a role: the command, then the flags. -/
def lineOf (command : String) (flags : UnitFlags) (role : Role) : String :=
  command ++ " " ++ flags.text role.id

/-- The request that launches a role with a command and flags. -/
def specFor (m : Manager) (command : String) (flags : UnitFlags) (role : Role) : LaunchSpec :=
  m.launchSpec role (lineOf command flags role)

/-- Launching a role is refused where the role is not placed or cannot be launched; else its
request fails, or its unit is there. -/
theorem goes_runRole (hthere : m.fabric.IsThere st.scene) {command : String} {flags : UnitFlags}
    {Q : Except Error UnitHandle → Story → Prop}
    (hunplaced : ∀ e, m.hostFor role = .error e → Q (.error e) st)
    (hrefused : ∀ e, (st.scene.states role).canLaunch = false → Q (.error e) st)
    (hfailed : ∀ id host e, m.hostFor role = .ok id → st.scene.hosts id = some host →
      (host.launch (m.specFor command flags role)).1 = .error e →
      Q (.error e)
        ((st.setHost id (Memory.withRequest (m.specFor command flags role) host)).add
          (.launched ⟨id, m.specFor command flags role, host.images[m.checkpoint role]?,
            .error e⟩)))
    (hlaunched : ∀ id host unit, m.hostFor role = .ok id → st.scene.hosts id = some host →
      (st.scene.states role).canLaunch = true → m.checkpoint role ∈ host.images →
      host.hasName role.id.text = false →
      unit = ⟨host.id, Memory.unitIdOf host.id (host.lastId + 1), role.id⟩ →
        Q (.ok unit)
          (((st.setHost id (Memory.withUnit (m.specFor command flags role) host)).add
            (.launched ⟨id, m.specFor command flags role, host.images[m.checkpoint role]?,
              .ok unit⟩)).setState role (.running unit))) :
  st.Goes (m.runRole role command flags) Q
  := by
  rw [runRole, UnitFlags.render_id]
  apply leads_bind
  apply leads_ofExcept
  rw [onward_ok]
  apply leads_bind
  apply leads_ofExcept
  cases hid : m.hostFor role with
  | error e => exact hunplaced e hid
  | ok id =>
      obtain ⟨host, hhost⟩ := hthere id (mem_hosts_of_hostFor hid)
      rw [onward_ok]
      apply leads_bind
      apply goes_stateOf
      rw [onward_ok]
      cases hcan : (st.scene.states role).canLaunch with
      | false =>
          apply leads_check_error (by rfl)
          exact hrefused _ hcan
      | true =>
          apply leads_check (by decide)
          apply leads_bind
          apply goes_setState
          rw [onward_ok]
          apply leads_bind
          apply goes_log
          rw [onward_ok]
          apply leads_bind
          apply leads_attempt
          have hhost' : (st.setState role .launching).scene.hosts id = some host := hhost
          apply goes_launch hhost'
          rw [onward_ok, ← lineOf, ← specFor]
          obtain ⟨e, hlaunch⟩ | ⟨himage, hname, hlaunch⟩ :=
            host.launch_cases (m.specFor command flags role)
          · rw [hlaunch]
            apply leads_bind
            apply goes_setState
            rw [onward_ok]
            apply leads_throw
            have hresult := hfailed id host e hid hhost (by rw [hlaunch])
            rw [← setState_states (add _ _) role] at hresult
            rw [setState_add_setHost_setState]
            exact hresult
          · rw [hlaunch]
            apply leads_bind
            apply goes_log
            rw [onward_ok]
            apply leads_bind
            apply goes_setState
            rw [onward_ok, setState_add_setHost_setState]
            apply leads_pure
            exact hlaunched id host _ hid hhost hcan himage hname rfl

end Launching

/-! ### Checkpoints -/

section Committing

open Story Program

/-- A role that gets a new state may have exited before. -/
theorem setState_exit (st : Story) (role : Role) (unit : UnitHandle) (status : Int)
    (state : UnitState) (id : HostId) (host : Memory) (deed : Deed) :
  (((Story.mk (st.scene.exit role unit status) st.deeds).setHost id host).add deed).setState
      role state
    = ((st.setHost id host).add deed).setState role state
  := by
  rw [Scene.exit]
  split_ifs
  · exact setState_add_setHost_setState st role _ state id host deed
  · rfl

/-- A host behind the commit of a unit: a new image is the checkpoint of the role of the unit, there
is no stale image, and the unit is removed. -/
def committed (m : Manager) (role : Role) (unitId : String) (host : Memory) : Memory :=
  { host with
    images := (host.images.insert (m.checkpoint role) (host.lastId + 1)).erase (m.stale role)
    units := host.units.erase unitId
    lastId := host.lastId + 1 }

theorem getElem?_images_committed {unitId : String} {host : Memory} {ref : ImageRef}
    (hstale : m.stale role ≠ ref) :
  (m.committed role unitId host).images[ref]?
    = if m.checkpoint role = ref then some (host.lastId + 1) else host.images[ref]?
  := by
  simp [committed, Std.ExtTreeMap.getElem?_erase, Std.ExtTreeMap.getElem?_insert, hstale]

/-- It does not matter what was kept under the stale tag in between. -/
theorem erase_insert_insert (m : Manager) (role : Role) (images : Std.ExtTreeMap ImageRef Nat)
    (image new : Nat) :
  ((images.insert (m.stale role) image).insert (m.checkpoint role) new).erase (m.stale role)
    = (images.insert (m.checkpoint role) new).erase (m.stale role)
  := by
  apply Std.ExtTreeMap.ext_getElem?
  intro other
  simp only [Std.ExtTreeMap.getElem?_erase, Std.ExtTreeMap.getElem?_insert]
  split_ifs <;> rfl

theorem isQuiet_of_isOwn {action : Action} (h : action.IsOwn) :
  action.IsQuiet
  := by
  cases action with
  | ask => cases h
  | stateOf | setState | forgetStates | log | pause | now | emit => trivial

theorem Tends.isQuiet {action : Action} (h : m.Tends action) :
  action.IsQuiet
  := by
  cases h with
  | own h => exact isQuiet_of_isOwn h
  | list | wait | logs | follow | remove => trivial

/-- Putting the roles back neither launches nor commits. -/
theorem isQuiet_prepareImages (m : Manager) :
  m.prepareImages.Makes Action.IsQuiet
  := by
  apply m.makes_prepareImages isQuiet_of_isOwn
  · exact fun _ _ => trivial
  · exact fun _ _ => trivial
  · exact fun _ _ => trivial

theorem IsLost.goes_commitUnit (h : m.IsLost st.scene unit) (hthere : m.fabric.IsThere st.scene)
    {Q : Except Error Unit → Story → Prop} (hQ : ∀ e, Q (.error e) st) :
  st.Goes (m.commitUnit unit) Q
  := by
  rw [commitUnit]
  apply leads_bind
  apply leads_ofExcept
  cases m.roleOf unit with
  | error e => exact hQ e
  | ok role =>
      rw [onward_ok]
      apply leads_bind
      apply goes_of_leads ((m.tends_ensureSuccess unit).mono fun _ => Tends.isQuiet)
      exact h.leads_ensureSuccess hthere hQ

/-- Committing a unit that is found fails where the unit did not succeed or there is no checkpoint
to keep, and is done else. -/
theorem Finds.goes_commitUnit {host : Memory} {u : KeptUnit}
    (h : m.Finds st.scene unit role host u) {Q : Except Error Unit → Story → Prop}
    (hfailed : ∀ e, success role u.result = .error e ∨ m.checkpoint role ∉ host.images →
      Q (.error e) { st with scene := st.scene.exit role unit u.result.status })
    (hcommitted : u.result.status = 0 → m.checkpoint role ∈ host.images →
      Q (.ok ())
        (((st.setHost unit.host (m.committed role unit.unitId host)).add
          (.committed ⟨unit.host, unit, 0, m.checkpoint role, some (host.lastId + 1)⟩)).setState
            role .committed)) :
  st.Goes (m.commitUnit unit) Q
  := by
  rw [commitUnit, h.roleOf_eq, h.fabric_host_eq]
  apply leads_bind
  apply leads_ofExcept
  rw [onward_ok]
  apply leads_bind
  apply goes_of_leads ((m.tends_ensureSuccess unit).mono fun _ => Tends.isQuiet)
  apply h.leads_ensureSuccess
  cases hsuccess : success role u.result with
  | error e => exact hfailed e (.inl hsuccess)
  | ok done =>
      have hstatus := success_eq_ok.mp hsuccess
      have hhost := (h.exit u.result.status).hosts_eq
      rw [onward_ok]
      apply leads_bind
      apply leads_ofExcept
      rw [onward_ok]
      apply leads_bind
      cases hcheckpoint : host.images[m.checkpoint role]? with
      | none =>
          have hmissing : m.checkpoint role ∉ host.images := by
            rw [Std.ExtTreeMap.mem_iff_isSome_getElem?, hcheckpoint]
            simp
          apply goes_tag_of_eq_none hhost hcheckpoint
          intro e
          exact hfailed e (.inr hmissing)
      | some image =>
          have hmem : m.checkpoint role ∈ host.images := by
            rw [Std.ExtTreeMap.mem_iff_isSome_getElem?, hcheckpoint]
            rfl
          apply goes_tag hhost hcheckpoint
          rw [onward_ok]
          apply leads_bind
          apply goes_commit (hosts_setHost_self _ _ _) (by exact h.getElem?_units)
          rw [onward_ok, setHost_setHost]
          apply leads_bind
          apply goes_remove (hosts_add_setHost_self _ _ _ _)
          rw [onward_ok, setHost_add, setHost_setHost]
          apply leads_bind
          apply goes_removeImage (hosts_add_setHost_self _ _ _ _)
          rw [onward_ok, setHost_add, setHost_setHost]
          apply leads_bind
          apply goes_setState
          rw [onward_ok]
          apply goes_log
          have hresult := hcommitted hstatus hmem
          rw [committed, ← m.erase_insert_insert role host.images image] at hresult
          rw [setState_exit]
          simp only [Memory.addImage, Std.ExtTreeMap.getElem?_insert_self, hstatus]
          exact hresult

end Committing

end Manager

end JoinBench
