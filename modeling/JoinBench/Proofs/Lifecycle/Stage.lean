import JoinBench.Proofs.Fabric
import JoinBench.Proofs.Topology.Roles

/-!
# The stage between two operations

Between the operations of a manager on ready hosts every unit that carries the label is the unit
of a role that the manager launched and did not remove, every role that was put back to the base
image has its checkpoint, and every role without a unit can be launched.  Everything else that a
host holds is out of sight, so that what an operation yields depends on the stage alone.
-/

namespace JoinBench

/-- A unit that was launched and not removed: its handle and what it leaves. -/
structure LiveUnit where
  handle : UnitHandle
  result : Host.UnitResult

namespace Manager

open Host

variable {m : Manager} {prepared : List Role} {live : Role → Option LiveUnit}

/-! ### Hosts on a stage -/

/-- A host is ready and holds the checkpoints of the prepared roles that are placed on it, and its
units with the label are the live units of these roles. -/
structure Holds (m : Manager) (results : LaunchSpec → UnitResult) (prepared : List Role)
    (live : Role → Option LiveUnit) (id : HostId) (host : Memory) : Prop where
  id_eq : host.id = id
  ready : host.Ready results m.image.base m.label
  checkpoint_mem : ∀ role ∈ prepared, m.hostFor role = .ok id → m.checkpoint role ∈ host.images
  exists_live : ∀ {unitId : String} {u : KeptUnit}, host.units[unitId]? = some u →
    m.label ∈ u.labels → ∃ role unit, live role = some unit ∧ m.hostFor role = .ok id
      ∧ unit.handle.unitId = unitId ∧ u.name = role.id.text
  getElem?_units : ∀ {role : Role} {unit : LiveUnit}, live role = some unit →
    m.hostFor role = .ok id →
      host.units[unit.handle.unitId]? = some ⟨role.id.text, [m.label], unit.result⟩
  number_le : ∀ {role : Role} {unit : LiveUnit}, live role = some unit →
    m.hostFor role = .ok id → ∃ n ≤ host.lastId, unit.handle.unitId = Memory.unitIdOf id n

namespace Holds

variable {results : LaunchSpec → UnitResult} {id : HostId} {host : Memory}

/-- What a host holds only depends on the live units of the roles that are placed on it. -/
theorem congr {prepared' : List Role} {live' : Role → Option LiveUnit}
    (h : m.Holds results prepared live id host)
    (hprepared : ∀ role ∈ prepared', m.hostFor role = .ok id → role ∈ prepared)
    (hlive : ∀ role, m.hostFor role = .ok id → live' role = live role) :
  m.Holds results prepared' live' id host
  where
    id_eq := h.id_eq
    ready := h.ready
    checkpoint_mem := by
      intro role hrole hid
      apply h.checkpoint_mem role (hprepared role hrole hid) hid
    exists_live := by
      intro unitId u hu hlabel
      obtain ⟨role, unit, hunit, hid, hrest⟩ := h.exists_live hu hlabel
      use role, unit
      rw [hlive role hid]
      exact ⟨hunit, hid, hrest⟩
    getElem?_units := by
      intro role unit hunit hid
      rw [hlive role hid] at hunit
      apply h.getElem?_units hunit hid
    number_le := by
      intro role unit hunit hid
      rw [hlive role hid] at hunit
      apply h.number_le hunit hid

/-- The name of a role that is not live is free. -/
theorem hasName_eq_false (h : m.Holds results prepared live id host) {role : Role}
    (hidle : live role = none) :
  host.hasName role.id.text = false
  := by
  rw [Bool.eq_false_iff, Ne, Memory.hasName_iff]
  rintro ⟨unitId, u, hu, hname⟩
  by_cases hlabel : m.label ∈ u.labels
  · obtain ⟨other, unit, hunit, -, -, hother⟩ := h.exists_live hu hlabel
    rw [hname, Role.text_id_inj] at hother
    rw [← hother, hidle] at hunit
    cases hunit
  · apply h.ready.name_ne hu hlabel role hname

/-- The unit of a role that is launched on a host. -/
def newUnit (m : Manager) (results : LaunchSpec → UnitResult) (role : Role)
    (commandLine : String) (host : Memory) : LiveUnit :=
  ⟨⟨host.id, Memory.unitIdOf host.id (host.lastId + 1), role.id⟩,
    results (m.launchSpec role commandLine)⟩

/-- A role that is prepared and not live can be launched on its host. -/
theorem launch_eq (h : m.Holds results prepared live id host) {role : Role}
    (hrole : role ∈ prepared) (hid : m.hostFor role = .ok id) (hidle : live role = none)
    (commandLine : String) :
  host.launch (m.launchSpec role commandLine)
    = (.ok (newUnit m results role commandLine host).handle,
        Memory.withUnit (m.launchSpec role commandLine) host)
  := by
  apply Memory.launch_eq_ok h.ready.isDown_eq_false
  · apply h.checkpoint_mem role hrole hid
  · apply h.hasName_eq_false hidle

/-- A launched unit is live behind its launch. -/
theorem launch (h : m.Holds results prepared live id host) {role : Role}
    (hrole : role ∈ prepared) (hid : m.hostFor role = .ok id) (hidle : live role = none)
    (commandLine : String) :
  m.Holds results prepared
    (Function.update live role (some (newUnit m results role commandLine host))) id
    (Memory.withUnit (m.launchSpec role commandLine) host)
  := by
  -- The number of the new unit is beyond those of all live units of the host.
  have hfresh : ∀ {other : Role} {unit : LiveUnit}, live other = some unit →
      m.hostFor other = .ok id →
        Memory.unitIdOf host.id (host.lastId + 1) ≠ unit.handle.unitId := by
    intro other unit hunit hother heq
    obtain ⟨n, hn, hnumber⟩ := h.number_le hunit hother
    rw [hnumber, h.id_eq, Memory.unitIdOf_inj] at heq
    omega
  constructor
  · exact h.id_eq
  · have hready := h.ready.answer (r := .launch (m.launchSpec role commandLine))
      (List.mem_singleton_self m.label)
    rw [Memory.answer, launch_eq h hrole hid hidle] at hready
    exact hready
  · exact h.checkpoint_mem
  · intro unitId u hu hlabel
    rw [Memory.withUnit, Std.ExtTreeMap.getElem?_insert] at hu
    split_ifs at hu with hcompare
    · cases hu
      use role, newUnit m results role commandLine host
      simp only [Function.update_self, hid, true_and]
      exact ⟨by simpa [newUnit] using hcompare, rfl⟩
    · obtain ⟨other, unit, hunit, hother, hunitId, hname⟩ := h.exists_live hu hlabel
      use other, unit
      have hne : other ≠ role := by
        rintro rfl
        rw [hidle] at hunit
        cases hunit
      rw [Function.update_of_ne hne]
      exact ⟨hunit, hother, hunitId, hname⟩
  · intro other unit hunit hother
    rw [Memory.withUnit, Std.ExtTreeMap.getElem?_insert]
    by_cases hne : other = role
    · subst hne
      rw [Function.update_self] at hunit
      cases hunit
      simp only [newUnit, h.ready.behaviour_eq]
      simp [launchSpec]
    · rw [Function.update_of_ne hne] at hunit
      rw [if_neg (by simpa using hfresh hunit hother)]
      apply h.getElem?_units hunit hother
  · intro other unit hunit hother
    by_cases hne : other = role
    · subst hne
      rw [Function.update_self] at hunit
      cases hunit
      use host.lastId + 1, Nat.le_refl _
      rw [newUnit, h.id_eq]
    · rw [Function.update_of_ne hne] at hunit
      obtain ⟨n, hn, hnumber⟩ := h.number_le hunit hother
      use n, Nat.le_succ_of_le hn

/-- A host may hold other images, as long as the base image and the checkpoints of the prepared
roles are among them. -/
theorem withImages {prepared' : List Role} (h : m.Holds results prepared live id host)
    {images : Std.ExtTreeMap ImageRef Nat} {lastId : Nat} (hbase : m.image.base ∈ images)
    (hcheckpoint : ∀ role ∈ prepared', m.hostFor role = .ok id → m.checkpoint role ∈ images)
    (hlast : host.lastId ≤ lastId) :
  m.Holds results prepared' live id { host with images := images, lastId := lastId }
  where
    id_eq := h.id_eq
    ready := h.ready.of_units hbase (fun hu => .inl hu)
    checkpoint_mem := hcheckpoint
    exists_live := h.exists_live
    getElem?_units := h.getElem?_units
    number_le := by
      intro role unit hunit hid
      obtain ⟨n, hn, hnumber⟩ := h.number_le hunit hid
      use n, Nat.le_trans hn hlast

/-- A unit that is removed is not live behind its removal. -/
theorem remove (h : m.Holds results prepared live id host) {role : Role} {unit : LiveUnit}
    (hunit : live role = some unit) (hid : m.hostFor role = .ok id) :
  m.Holds results prepared (Function.update live role none) id
    { host with units := host.units.erase unit.handle.unitId }
  := by
  constructor
  · exact h.id_eq
  · exact h.ready.answer (r := .remove unit.handle.unitId false) trivial
  · exact h.checkpoint_mem
  · intro unitId u hu hlabel
    rw [Std.ExtTreeMap.getElem?_erase] at hu
    split_ifs at hu with hcompare
    obtain ⟨other, kept, hkept, hother, hunitId, hname⟩ := h.exists_live hu hlabel
    use other, kept
    have hne : other ≠ role := by
      rintro rfl
      rw [hunit] at hkept
      cases hkept
      simp [hunitId] at hcompare
    rw [Function.update_of_ne hne]
    exact ⟨hkept, hother, hunitId, hname⟩
  · intro other kept hkept hother
    by_cases hne : other = role
    · rw [hne, Function.update_self] at hkept
      cases hkept
    · rw [Function.update_of_ne hne] at hkept
      -- Two live units of one identity have the name of one role.
      have hunitId : kept.handle.unitId ≠ unit.handle.unitId := by
        intro heq
        have hget := h.getElem?_units hkept hother
        rw [heq, h.getElem?_units hunit hid, Option.some_inj, KeptUnit.mk.injEq,
          Role.text_id_inj] at hget
        exact hne hget.1.symm
      rw [Std.ExtTreeMap.getElem?_erase, if_neg]
      · apply h.getElem?_units hkept hother
      · simpa using hunitId.symm
  · intro other kept hkept hother
    by_cases hne : other = role
    · rw [hne, Function.update_self] at hkept
      cases hkept
    · rw [Function.update_of_ne hne] at hkept
      apply h.number_le hkept hother

end Holds

/-! ### The stage -/

/-- All hosts of the fabric hold what they have to for the prepared and the live roles; a role
without a live unit is not busy, and can be launched if it is prepared. -/
structure OnStage (m : Manager) (results : HostId → LaunchSpec → UnitResult)
    (prepared : List Role) (live : Role → Option LiveUnit) (sc : Scene) : Prop where
  exists_host : ∀ id ∈ m.fabric.hosts,
    ∃ host, sc.hosts id = some host ∧ m.Holds (results id) prepared live id host
  isBusy : ∀ {role : Role}, live role = none → (sc.states role).isBusy = false
  canLaunch : ∀ {role : Role}, role ∈ prepared → live role = none →
    (sc.states role).canLaunch = true
  placed : ∀ {role : Role}, role ∈ prepared →
    role ∈ m.topology.roles ∧ ∃ id, m.hostFor role = .ok id
  of_live : ∀ {role : Role} {unit : LiveUnit}, live role = some unit →
    role ∈ m.topology.roles ∧ unit.handle.role = role.id
      ∧ m.hostFor role = .ok unit.handle.host

namespace OnStage

variable {results : HostId → LaunchSpec → UnitResult} {sc : Scene} {role : Role} {id : HostId}

theorem isThere (h : m.OnStage results prepared live sc) :
  m.fabric.IsThere sc
  := by
  intro id hid
  obtain ⟨host, hhost, -⟩ := h.exists_host id hid
  exact ⟨host, hhost⟩

/-- The host of a role is there and holds what it has to. -/
theorem exists_hostFor (h : m.OnStage results prepared live sc) (hid : m.hostFor role = .ok id) :
  ∃ host, sc.hosts id = some host ∧ m.Holds (results id) prepared live id host
  := h.exists_host id (mem_hosts_of_hostFor hid)

/-- The state of a role with a live unit does not matter. -/
theorem setState {unit : LiveUnit} (h : m.OnStage results prepared live sc)
    (hunit : live role = some unit) (state : UnitState) :
  m.OnStage results prepared live (sc.setState role state)
  := by
  have hstate : ∀ {other : Role}, live other = none →
      (sc.setState role state).states other = sc.states other := by
    intro other hother
    rw [Scene.states_setState, Function.update_of_ne]
    rintro rfl
    rw [hunit] at hother
    cases hother
  constructor
  · exact h.exists_host
  · intro other hother
    rw [hstate hother]
    apply h.isBusy hother
  · intro other hmem hother
    rw [hstate hother]
    apply h.canLaunch hmem hother
  · exact h.placed
  · exact h.of_live

/-- A change of one host and of the state of one role that is placed there leaves the rest of the
stage as it was. -/
theorem step {prepared' : List Role} {live' : Role → Option LiveUnit} {host : Memory}
    {state : UnitState} (h : m.OnStage results prepared live sc)
    (hid : m.hostFor role = .ok id)
    (hhost : m.Holds (results id) prepared' live' id host)
    (hprepared : ∀ other ∈ prepared', other ≠ role → other ∈ prepared)
    (hlive : ∀ other, other ≠ role → live' other = live other)
    (hidle : live' role = none → state.isBusy = false ∧ state.canLaunch = true)
    (hunit : ∀ unit, live' role = some unit →
      unit.handle.role = role.id ∧ unit.handle.host = id) :
  m.OnStage results prepared' live' ((sc.setHost id host).setState role state)
  := by
  -- A role on another host is another role.
  have hne : ∀ {other : Role} {elsewhere : HostId}, elsewhere ≠ id →
      m.hostFor other = .ok elsewhere → other ≠ role := by
    rintro other elsewhere helse hother rfl
    rw [hid] at hother
    cases hother
    exact helse rfl
  constructor
  · intro elsewhere hfabric
    rw [Scene.hosts_setState, Scene.hosts_setHost]
    by_cases helse : elsewhere = id
    · subst helse
      rw [Function.update_self]
      exact ⟨host, rfl, hhost⟩
    · rw [Function.update_of_ne helse]
      obtain ⟨old, hold, hholds⟩ := h.exists_host elsewhere hfabric
      refine ⟨old, hold, hholds.congr ?_ ?_⟩
      · intro other hother hplace
        apply hprepared other hother (hne helse hplace)
      · intro other hplace
        apply hlive other (hne helse hplace)
  · intro other hother
    rw [Scene.states_setState, Scene.states_setHost]
    by_cases hrole : other = role
    · subst hrole
      rw [Function.update_self]
      exact (hidle hother).1
    · rw [Function.update_of_ne hrole]
      apply h.isBusy
      rw [← hlive other hrole, hother]
  · intro other hother hnone
    rw [Scene.states_setState, Scene.states_setHost]
    by_cases hrole : other = role
    · subst hrole
      rw [Function.update_self]
      exact (hidle hnone).2
    · rw [Function.update_of_ne hrole]
      apply h.canLaunch (hprepared other hother hrole)
      rw [← hlive other hrole, hnone]
  · intro other hother
    by_cases hrole : other = role
    · subst hrole
      use mem_roles_of_hostFor hid, id
    · apply h.placed (hprepared other hother hrole)
  · intro other unit hother
    by_cases hrole : other = role
    · subst hrole
      obtain ⟨hname, hplace⟩ := hunit unit hother
      use mem_roles_of_hostFor hid, hname
      rw [hplace, hid]
    · rw [hlive other hrole] at hother
      apply h.of_live hother

end OnStage

end Manager

end JoinBench
