import JoinBench.Proofs.Lifecycle.Outcomes
import Mathlib.Logic.Relation

/-!
# What the state of a role says about its host

Between operations the state of a role tells something about the units and the images of its host,
and something is known of every unit that was launched for the role.  `Carries` says that all of
this is still so when the host and the state have changed.  For each change that an operation
makes there is one lemma for the role that it is about and one for the other roles of the host.
-/

namespace JoinBench

/-- The unit in a state, if there is one. -/
def UnitState.unit? : UnitState → Option UnitHandle
  | running unit => some unit
  | exited unit _ => some unit
  | _ => none

namespace Manager

open Host Relation

variable {m : Manager} {intact : Prop} {dropped : List UnitHandle}
  {changes : Role → UnitState → UnitState → Prop} {role other : Role} {state state' : UnitState}
  {host host' : Memory} {unit : UnitHandle}

/-! ### What holds of a host -/

/-- What the state of a role says about the units of its host.  The unit of the role is there as
long as no cleaning broke off. -/
structure Upholds (intact : Prop) (role : Role) (state : UnitState) (host : Memory) : Prop where
  ne_launching : state ≠ .launching
  mem_units : intact → ∀ unit, state.unit? = some unit → unit.unitId ∈ host.units
  hasName_eq : state = .committed → host.hasName role.id.text = false

/-- What the state of a role says about the images of its host. -/
structure IsTagged (m : Manager) (role : Role) (state : UnitState) (host : Memory) : Prop where
  base_mem : m.image.base ∈ host.images
  checkpoint_mem : state ≠ .noImage → m.checkpoint role ∈ host.images
  stale_notMem : state ≠ .noImage → m.stale role ∉ host.images

/-- A unit that was launched for a role and is still there: it is the only one with the name of the
role, it carries the label, and the role is in a state that fits it. -/
structure IsKept (m : Manager) (dropped : List UnitHandle) (role : Role) (state : UnitState)
    (host : Memory) (unit : UnitHandle) (u : KeptUnit) : Prop where
  name_eq : u.name = role.id.text
  label_mem : m.label ∈ u.labels
  unitId_eq : ∀ {unitId : String} {u' : KeptUnit}, host.units[unitId]? = some u' →
    u'.name = role.id.text → unitId = unit.unitId
  state_eq : state = .running unit ∨ state = .exited unit u.result.status
    ∨ state = .baseImage ∧ unit ∈ dropped

/-- What is known of a unit that was launched for a role, whether it is still there or not. -/
structure Knows (m : Manager) (dropped : List UnitHandle) (role : Role) (state : UnitState)
    (host : Memory) (unit : UnitHandle) : Prop where
  role_eq : unit.role = role.id
  host_eq : unit.host = host.id
  number_le : ∃ n ≤ host.lastId, unit.unitId = Memory.unitIdOf host.id n
  isKept : ∀ {u : KeptUnit}, host.units[unit.unitId]? = some u →
    m.IsKept dropped role state host unit u

/-- A unit with the name of a role is the unit that is known of the role. -/
theorem Knows.unitId_eq (h : m.Knows dropped role state host unit) {u u' : KeptUnit}
    (hunit : host.units[unit.unitId]? = some u) {unitId : String}
    (hother : host.units[unitId]? = some u') (hname : u'.name = role.id.text) :
  unitId = unit.unitId
  := (h.isKept hunit).unitId_eq hother hname

theorem Knows.mono {dropped' : List UnitHandle} (h : m.Knows dropped role state host unit)
    (hsub : dropped ⊆ dropped') :
  m.Knows dropped' role state host unit
  where
    role_eq := h.role_eq
    host_eq := h.host_eq
    number_le := h.number_le
    isKept := by
      intro u hu
      have hkept := h.isKept hu
      refine ⟨hkept.name_eq, hkept.label_mem, hkept.unitId_eq, ?_⟩
      exact hkept.state_eq.imp_right fun hstate =>
        hstate.imp_right fun ⟨hbase, hmem⟩ => ⟨hbase, hsub hmem⟩

/-- What held of a role with a state on a host holds of it with another state on the changed
host. -/
structure Carries (m : Manager) (intact : Prop) (dropped : List UnitHandle)
    (changes : Role → UnitState → UnitState → Prop) (role : Role) (state state' : UnitState)
    (host host' : Memory) : Prop where
  upholds : Upholds intact role state host →
    (∀ unit, state.unit? = some unit → m.Knows dropped role state host unit) →
      Upholds intact role state' host'
  knows : ∀ unit, m.Knows dropped role state host unit → m.Knows dropped role state' host' unit
  knows_unit : ∀ unit, state'.unit? = some unit →
    state.unit? = some unit ∨ m.Knows dropped role state' host' unit
  isTagged : m.IsApart → m.IsTagged role state host → m.IsTagged role state' host'
  changes_states : ReflTransGen (changes role) state state'

/-! ### Changes of a host alone -/

/-- Nothing but the images of a host and its counts of launches has changed. -/
theorem Carries.of_units_eq (hid : host'.id = host.id) (hunits : host'.units = host.units)
    (hlast : host'.lastId = host.lastId)
    (hmem : m.IsApart → m.IsTagged role state host → m.IsTagged role state host') :
  m.Carries intact dropped changes role state state host host'
  where
    upholds := by
      intro h _
      refine ⟨h.ne_launching, ?_, ?_⟩
      · rw [hunits]
        exact h.mem_units
      · rw [Memory.hasName, hunits]
        exact h.hasName_eq
    knows := by
      intro unit h
      refine ⟨h.role_eq, hid ▸ h.host_eq, ?_, ?_⟩
      · rw [hlast, hid]
        exact h.number_le
      · rw [hunits]
        intro u hu
        refine ⟨(h.isKept hu).name_eq, (h.isKept hu).label_mem, ?_, (h.isKept hu).state_eq⟩
        rw [hunits]
        exact (h.isKept hu).unitId_eq
    knows_unit := fun unit hunit => .inl hunit
    isTagged := hmem
    changes_states := .refl

/-- A launch request that led to no unit. -/
theorem Carries.withRequest (spec : LaunchSpec) :
  m.Carries intact dropped changes role state state host (Memory.withRequest spec host)
  := .of_units_eq rfl rfl rfl fun _ h => ⟨h.base_mem, h.checkpoint_mem, h.stale_notMem⟩

/-- A host goes down, or will. -/
theorem Carries.goDownBehind (runs : Nat) :
  m.Carries intact dropped changes role state state host (Memory.goDownBehind runs host)
  := .of_units_eq rfl rfl rfl fun _ h => ⟨h.base_mem, h.checkpoint_mem, h.stale_notMem⟩

/-! ### Removing units -/

section Removing

variable (hfewer : ∀ {unitId : String} {u : KeptUnit}, host'.units[unitId]? = some u →
  host.units[unitId]? = some u)

include hfewer

theorem Knows.of_fewer (h : m.Knows dropped role state host unit) (hid : host'.id = host.id)
    (hlast : host.lastId ≤ host'.lastId) :
  m.Knows dropped role state host' unit
  where
    role_eq := h.role_eq
    host_eq := h.host_eq.trans hid.symm
    number_le := by
      obtain ⟨n, hn, hnumber⟩ := h.number_le
      exact ⟨n, hn.trans hlast, hid ▸ hnumber⟩
    isKept := by
      intro u hu
      have hkept := h.isKept (hfewer hu)
      refine ⟨hkept.name_eq, hkept.label_mem, ?_, hkept.state_eq⟩
      intro unitId u' hu' hname
      exact hkept.unitId_eq (hfewer hu') hname

theorem hasName_of_fewer {name : String} (h : host.hasName name = false) :
  host'.hasName name = false
  := by
  rw [Bool.eq_false_iff, Ne, Memory.hasName_iff] at h ⊢
  rintro ⟨unitId, u, hu, hname⟩
  exact h ⟨unitId, u, hfewer hu, hname⟩

end Removing

/-- Some units are removed by a cleaning that breaks off. -/
theorem Carries.clean (refs : List UnitRef) :
  m.Carries False dropped changes role state state host
    { host with units := Memory.eraseAll refs host.units }
  where
    upholds := by
      intro h _
      refine ⟨h.ne_launching, False.elim, ?_⟩
      intro hstate
      exact hasName_of_fewer (fun hu => (Memory.getElem?_eraseAll.mp hu).1) (h.hasName_eq hstate)
    knows := fun unit h =>
      h.of_fewer (fun hu => (Memory.getElem?_eraseAll.mp hu).1) rfl (Nat.le_refl _)
    knows_unit := fun unit hunit => .inl hunit
    isTagged := fun _ h => ⟨h.base_mem, h.checkpoint_mem, h.stale_notMem⟩
    changes_states := .refl

/-- All units with the label are removed, and the state is forgotten. -/
theorem Carries.reset {refs : List UnitRef}
    (hclean : Memory.labelled { host with units := Memory.eraseAll refs host.units } m.label = [])
    (hchange : changes role state .noImage) :
  m.Carries intact dropped changes role state .noImage host
    { host with units := Memory.eraseAll refs host.units }
  where
    upholds := by
      intro _ _
      constructor
      · rintro ⟨⟩
      · rintro _ _ ⟨⟩
      · rintro ⟨⟩
    knows := by
      intro unit h
      refine ⟨h.role_eq, h.host_eq, h.number_le, ?_⟩
      intro u hu
      have hlabel := (h.isKept (Memory.getElem?_eraseAll.mp hu).1).label_mem
      exact absurd hlabel (Memory.labelled_eq_nil_iff.mp hclean hu)
    knows_unit := by
      rintro _ ⟨⟩
    isTagged := fun _ h => ⟨h.base_mem, fun hne => absurd rfl hne, fun hne => absurd rfl hne⟩
    changes_states := .single hchange

/-! ### Launching -/

section Launching

variable {spec : LaunchSpec}

/-- The unit that a launch leads to has an identity of its own. -/
theorem Knows.unitId_ne (h : m.Knows dropped role state host unit) :
  Memory.unitIdOf host.id (host.lastId + 1) ≠ unit.unitId
  := by
  obtain ⟨n, hn, hnumber⟩ := h.number_le
  rw [hnumber, Ne, Memory.unitIdOf_inj]
  omega

theorem getElem?_withUnit_of_ne {unitId : String}
    (h : Memory.unitIdOf host.id (host.lastId + 1) ≠ unitId) :
  (Memory.withUnit spec host).units[unitId]? = host.units[unitId]?
  := by
  rw [Memory.withUnit, Std.ExtTreeMap.getElem?_insert, if_neg (by simpa using h)]

/-- A unit behind a launch was there before, or has the launched name. -/
theorem getElem?_withUnit {unitId : String} {u : KeptUnit}
    (h : (Memory.withUnit spec host).units[unitId]? = some u) :
  host.units[unitId]? = some u
    ∨ unitId = Memory.unitIdOf host.id (host.lastId + 1) ∧ u.name = spec.name
      ∧ u.labels = spec.labels
  := by
  rw [Memory.withUnit, Std.ExtTreeMap.getElem?_insert] at h
  split_ifs at h with heq
  · cases h
    exact .inr ⟨(Std.LawfulEqOrd.eq_of_compare heq).symm, rfl, rfl⟩
  · exact .inl h

/-- A role is launched. -/
theorem Carries.launch (hcan : state.canLaunch = true) (hname : host.hasName role.id.text = false)
    (hspec : spec.name = role.id.text) (hlabel : m.label ∈ spec.labels)
    (hunit : unit = ⟨host.id, Memory.unitIdOf host.id (host.lastId + 1), role.id⟩)
    (hchange : changes role state (.running unit)) :
  m.Carries intact dropped changes role state (.running unit) host (Memory.withUnit spec host)
  where
    upholds := by
      intro _ _
      constructor
      · rintro ⟨⟩
      · rintro _ _ ⟨⟩
        rw [hunit]
        exact Std.ExtTreeMap.mem_insert_self
      · rintro ⟨⟩
    knows := by
      intro other h
      obtain ⟨n, hn, hnumber⟩ := h.number_le
      refine ⟨h.role_eq, h.host_eq, ⟨n, Nat.le_succ_of_le hn, hnumber⟩, ?_⟩
      intro u hu
      rw [getElem?_withUnit_of_ne h.unitId_ne] at hu
      -- The name was free, so no unit that was launched before is left.
      rw [Bool.eq_false_iff, Ne, Memory.hasName_iff] at hname
      exact absurd ⟨_, u, hu, (h.isKept hu).name_eq⟩ hname
    knows_unit := by
      rintro _ ⟨⟩
      right
      rw [hunit]
      refine ⟨rfl, rfl, ⟨host.lastId + 1, Nat.le_refl _, rfl⟩, ?_⟩
      intro u hu
      rw [Memory.withUnit, Std.ExtTreeMap.getElem?_insert_self] at hu
      cases hu
      refine ⟨hspec, hlabel, ?_, .inl rfl⟩
      intro unitId u' hu' hname'
      obtain hu' | ⟨hid, -⟩ := getElem?_withUnit hu'
      · rw [Bool.eq_false_iff, Ne, Memory.hasName_iff] at hname
        exact absurd ⟨_, u', hu', hname'⟩ hname
      · exact hid
    isTagged := by
      intro _ h
      have hne : state ≠ .noImage := by
        rintro rfl
        cases hcan
      exact ⟨h.base_mem, fun _ => h.checkpoint_mem hne, fun _ => h.stale_notMem hne⟩
    changes_states := .single hchange

/-- Another role of the host is launched. -/
theorem Carries.launch_other (hspec : spec.name ≠ role.id.text) :
  m.Carries intact dropped changes role state state host (Memory.withUnit spec host)
  where
    upholds := by
      intro h _
      refine ⟨h.ne_launching, ?_, ?_⟩
      · intro hintact unit hunit
        apply Std.ExtTreeMap.mem_insert.mpr
        exact .inr (h.mem_units hintact unit hunit)
      · intro hstate
        have hfree := h.hasName_eq hstate
        rw [Bool.eq_false_iff, Ne, Memory.hasName_iff] at hfree ⊢
        rintro ⟨unitId, u, hu, hname⟩
        obtain hu | ⟨-, hname', -⟩ := getElem?_withUnit hu
        · exact hfree ⟨unitId, u, hu, hname⟩
        · exact hspec (hname'.symm.trans hname)
    knows := by
      intro unit h
      obtain ⟨n, hn, hnumber⟩ := h.number_le
      refine ⟨h.role_eq, h.host_eq, ⟨n, Nat.le_succ_of_le hn, hnumber⟩, ?_⟩
      intro u hu
      rw [getElem?_withUnit_of_ne h.unitId_ne] at hu
      have hkept := h.isKept hu
      refine ⟨hkept.name_eq, hkept.label_mem, ?_, hkept.state_eq⟩
      intro unitId u' hu' hname
      obtain hu' | ⟨-, hname', -⟩ := getElem?_withUnit hu'
      · exact hkept.unitId_eq hu' hname
      · exact absurd (hname'.symm.trans hname) hspec
    knows_unit := fun unit hunit => .inl hunit
    isTagged := fun _ h => ⟨h.base_mem, h.checkpoint_mem, h.stale_notMem⟩
    changes_states := .refl

end Launching

/-! ### Exiting -/

/-- A role whose unit is found exits. -/
theorem Carries.exit {u : KeptUnit} (hunit : host.units[unit.unitId]? = some u)
    (hchange : changes role (.running unit) (.exited unit u.result.status)) :
  m.Carries intact dropped changes role (.running unit) (.exited unit u.result.status) host host
  where
    upholds := by
      intro h _
      constructor
      · rintro ⟨⟩
      · rintro hintact _ ⟨⟩
        exact h.mem_units hintact unit rfl
      · rintro ⟨⟩
    knows := by
      intro other h
      refine ⟨h.role_eq, h.host_eq, h.number_le, ?_⟩
      intro u' hu'
      have hkept := h.isKept hu'
      refine ⟨hkept.name_eq, hkept.label_mem, hkept.unitId_eq, ?_⟩
      obtain hstate | hstate | ⟨hstate, -⟩ := hkept.state_eq
      · cases hstate
        rw [hunit] at hu'
        cases hu'
        exact .inr (.inl rfl)
      · cases hstate
      · cases hstate
    knows_unit := by
      rintro _ ⟨⟩
      exact .inl rfl
    isTagged := by
      intro _ h
      exact ⟨h.base_mem, fun _ => h.checkpoint_mem (by rintro ⟨⟩),
        fun _ => h.stale_notMem (by rintro ⟨⟩)⟩
    changes_states := .single hchange

/-! ### Committing -/

section Committing

variable {u : KeptUnit}

theorem getElem?_committed {unitId : String} {u' : KeptUnit}
    (h : (m.committed role unit.unitId host).units[unitId]? = some u') :
  host.units[unitId]? = some u' ∧ unitId ≠ unit.unitId
  := by
  rw [committed, Std.ExtTreeMap.getElem?_erase] at h
  split_ifs at h with heq
  exact ⟨h, fun hid => heq (by simpa using hid.symm)⟩

/-- An image that is no stale one stays behind a commit. -/
theorem mem_images_committed {image : ImageRef} (hne : m.stale role ≠ image)
    (h : image = m.checkpoint role ∨ image ∈ host.images) :
  image ∈ (m.committed role unit.unitId host).images
  := by
  rw [Std.ExtTreeMap.mem_iff_isSome_getElem?] at h ⊢
  rw [getElem?_images_committed hne]
  split_ifs with heq
  · rfl
  · exact h.resolve_left (Ne.symm heq)

/-- The unit of a role is committed. -/
theorem Carries.commit (hrole : role ∈ m.topology.roles)
    (hknows : m.Knows dropped role state host unit)
    (hunit : host.units[unit.unitId]? = some u)
    (hchange : ReflTransGen (changes role) state .committed) :
  m.Carries intact dropped changes role state .committed host (m.committed role unit.unitId host)
  where
    upholds := by
      intro _ _
      constructor
      · rintro ⟨⟩
      · rintro _ _ ⟨⟩
      · intro _
        rw [Bool.eq_false_iff, Ne, Memory.hasName_iff]
        rintro ⟨unitId, u', hu', hname⟩
        obtain ⟨hu', hne⟩ := getElem?_committed hu'
        exact hne (hknows.unitId_eq hunit hu' hname)
    knows := by
      intro other h
      obtain ⟨n, hn, hnumber⟩ := h.number_le
      refine ⟨h.role_eq, h.host_eq, ⟨n, Nat.le_succ_of_le hn, hnumber⟩, ?_⟩
      intro u' hu'
      -- The committed unit was the only one with the name of the role.
      obtain ⟨hu', hne⟩ := getElem?_committed hu'
      exact absurd (hknows.unitId_eq hunit hu' (h.isKept hu').name_eq) hne
    knows_unit := by
      rintro _ ⟨⟩
    isTagged := by
      intro hapart h
      refine ⟨?_, fun _ => ?_, fun _ => ?_⟩
      · exact mem_images_committed (stale_ne_base (hapart role hrole)) (.inr h.base_mem)
      · exact mem_images_committed (stale_ne_checkpoint m role role) (.inl rfl)
      · rw [committed, Std.ExtTreeMap.mem_erase]
        simp
    changes_states := hchange

/-- The unit of another role of the host is committed. -/
theorem Carries.commit_other (hrole : role ∈ m.topology.roles) (hne : other ≠ role)
    (hunit : host.units[unit.unitId]? = some u) (hname : u.name = role.id.text) :
  m.Carries intact dropped changes other state state host (m.committed role unit.unitId host)
  where
    upholds := by
      intro h hknows
      refine ⟨h.ne_launching, ?_, ?_⟩
      · intro hintact unit' hunit'
        have hmem := h.mem_units hintact unit' hunit'
        rw [committed, Std.ExtTreeMap.mem_erase]
        refine ⟨?_, hmem⟩
        -- A unit of two roles would have two names.
        intro hid
        have hid : unit.unitId = unit'.unitId := by simpa using hid
        rw [hid] at hunit
        have hother := ((hknows unit' hunit').isKept hunit).name_eq
        exact hne (Role.text_id_inj.mp (hother.symm.trans hname))
      · intro hstate
        exact hasName_of_fewer (fun hu => (getElem?_committed hu).1) (h.hasName_eq hstate)
    knows := fun unit' h =>
      h.of_fewer (fun hu => (getElem?_committed hu).1) rfl (Nat.le_succ _)
    knows_unit := fun unit hunit => .inl hunit
    isTagged := by
      intro hapart h
      refine ⟨?_, fun hstate => ?_, fun hstate => ?_⟩
      · exact mem_images_committed (stale_ne_base (hapart role hrole)) (.inr h.base_mem)
      · exact mem_images_committed (stale_ne_checkpoint m role other)
          (.inr (h.checkpoint_mem hstate))
      · rw [committed, Std.ExtTreeMap.mem_erase, Std.ExtTreeMap.mem_insert]
        rintro ⟨-, hid | hmem⟩
        · exact stale_ne_checkpoint m other role (Std.LawfulEqOrd.eq_of_compare hid).symm
        · exact h.stale_notMem hstate hmem
    changes_states := .refl

end Committing

/-! ### Resetting -/

section Resetting

/-- Putting a role back breaks off because there is no base image. -/
theorem Carries.untagged (hother : other ∈ m.topology.roles)
    (hbase : m.image.base ∉ (m.untagged other host).images) :
  m.Carries intact dropped changes role state state host (m.untagged other host)
  := by
  apply of_units_eq
  · rfl
  · rfl
  · rfl
  · intro hapart h
    exact absurd ((base_mem_untagged (hapart other hother)).mpr h.base_mem) hbase

/-- A role is put back to the base image. -/
theorem Carries.prepare {image : Nat} (hbusy : state.isBusy = false)
    (hbase : m.image.base ∈ (m.untagged role host).images)
    (hdropped : ∀ unit status, state = .exited unit status → unit ∈ dropped)
    (hchange : changes role state .baseImage) :
  m.Carries intact dropped changes role state .baseImage host (m.retagged role image host)
  where
    upholds := by
      intro _ _
      constructor
      · rintro ⟨⟩
      · rintro _ _ ⟨⟩
      · rintro ⟨⟩
    knows := by
      intro unit h
      refine ⟨h.role_eq, h.host_eq, h.number_le, ?_⟩
      intro u hu
      have hkept := h.isKept hu
      refine ⟨hkept.name_eq, hkept.label_mem, hkept.unitId_eq, ?_⟩
      obtain hstate | hstate | ⟨-, hmem⟩ := hkept.state_eq
      · rw [hstate] at hbusy
        cases hbusy
      · exact .inr (.inr ⟨rfl, hdropped unit _ hstate⟩)
      · exact .inr (.inr ⟨rfl, hmem⟩)
    knows_unit := by
      rintro _ ⟨⟩
    isTagged := by
      intro _ _
      refine ⟨?_, fun _ => ?_, fun _ => ?_⟩
      · exact Std.ExtTreeMap.mem_insert.mpr (.inr hbase)
      · exact Std.ExtTreeMap.mem_insert_self
      · rw [retagged, Std.ExtTreeMap.mem_insert, Manager.untagged, Std.ExtTreeMap.mem_erase]
        rintro (hid | ⟨hne, -⟩)
        · exact stale_ne_checkpoint m role role (Std.LawfulEqOrd.eq_of_compare hid).symm
        · simp at hne
    changes_states := .single hchange

/-- Another role of the host is put back to the base image. -/
theorem Carries.prepare_other {image : Nat} (hrole : role ∈ m.topology.roles)
    (hne : other ≠ role) :
  m.Carries intact dropped changes other state state host (m.retagged role image host)
  := by
  have hcheckpoint : m.checkpoint role ≠ m.checkpoint other :=
    fun heq => hne (checkpoint_inj.mp heq).symm
  apply of_units_eq
  · rfl
  · rfl
  · rfl
  · intro hapart h
    refine ⟨?_, fun hstate => ?_, fun hstate => ?_⟩
    · apply Std.ExtTreeMap.mem_insert.mpr
      exact .inr ((base_mem_untagged (hapart role hrole)).mpr h.base_mem)
    · apply Std.ExtTreeMap.mem_insert.mpr
      right
      rw [mem_images_untagged hcheckpoint (stale_ne_checkpoint m role other)]
      exact h.checkpoint_mem hstate
    · rw [retagged, Std.ExtTreeMap.mem_insert, Manager.untagged, Std.ExtTreeMap.mem_erase,
        Std.ExtTreeMap.mem_erase]
      rintro (hid | ⟨-, -, hmem⟩)
      · exact stale_ne_checkpoint m other role (Std.LawfulEqOrd.eq_of_compare hid).symm
      · exact h.stale_notMem hstate hmem

end Resetting

end Manager

end JoinBench
