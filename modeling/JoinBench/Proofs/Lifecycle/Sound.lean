import JoinBench.Proofs.Lifecycle.Carrying

/-!
# Scenes that are sound for a manager

A scene is sound if the state of every role holds of its host.  A scene advances to another if that
one is sound as well, what was known of units is still known, tags are still in place, and the
state of every role has only made changes that are allowed.  On a sound scene every operation of a
manager leads to a scene that it advances to, whether the operation succeeds or not.
-/

namespace JoinBench

namespace Manager

open Host Relation

variable {m : Manager} {intact intact' : Prop} {dropped dropped' : List UnitHandle}
  {changes : Role → UnitState → UnitState → Prop} {sc sc' sc'' : Scene} {role other : Role}
  {id : HostId} {host host' : Memory} {unit : UnitHandle}

/-! ### Sound scenes -/

/-- A role is placed on a host that is there. -/
structure At (m : Manager) (sc : Scene) (role : Role) (host : Memory) : Prop where
  hostFor_eq : m.hostFor role = .ok host.id
  hosts_eq : sc.hosts host.id = some host

/-- The hosts of the fabric are there under their names, only roles that are placed have an image,
and the state of every role holds of its host. -/
structure Sound (m : Manager) (intact : Prop) (dropped : List UnitHandle) (sc : Scene) : Prop where
  isThere : m.fabric.IsThere sc
  id_eq : ∀ {id : HostId} {host : Memory}, sc.hosts id = some host → host.id = id
  exists_hostFor : ∀ {role : Role}, sc.states role ≠ .noImage → ∃ id, m.hostFor role = .ok id
  upholds : ∀ {role : Role} {host : Memory}, m.At sc role host →
    Upholds intact role (sc.states role) host
  knows : ∀ {role : Role} {host : Memory} {unit : UnitHandle}, m.At sc role host →
    (sc.states role).unit? = some unit → m.Knows dropped role (sc.states role) host unit

/-- The unit was launched for some role. -/
def KnowsIn (m : Manager) (dropped : List UnitHandle) (sc : Scene) (unit : UnitHandle) : Prop :=
  ∃ role host, m.At sc role host ∧ m.Knows dropped role (sc.states role) host unit

/-- The tags of a role are in place. -/
def IsTaggedAt (m : Manager) (sc : Scene) (role : Role) : Prop :=
  ∀ host, m.At sc role host → m.IsTagged role (sc.states role) host

/-- The tags of all roles are in place. -/
def IsTaggedIn (m : Manager) (sc : Scene) : Prop :=
  ∀ role host, m.At sc role host → m.IsTagged role (sc.states role) host

theorem KnowsIn.mono (h : m.KnowsIn dropped sc unit) (hsub : dropped ⊆ dropped') :
  m.KnowsIn dropped' sc unit
  := by
  obtain ⟨role, host, hat, hknows⟩ := h
  exact ⟨role, host, hat, hknows.mono hsub⟩

namespace Sound

theorem mono (h : m.Sound intact dropped sc) (himp : intact' → intact)
    (hsub : dropped ⊆ dropped') :
  m.Sound intact' dropped' sc
  where
    isThere := h.isThere
    id_eq := h.id_eq
    exists_hostFor := h.exists_hostFor
    upholds := fun hat =>
      ⟨(h.upholds hat).ne_launching, fun hintact => (h.upholds hat).mem_units (himp hintact),
        (h.upholds hat).hasName_eq⟩
    knows := fun hat hunit => (h.knows hat hunit).mono hsub

/-- A role with an image is placed on a host that is there. -/
theorem exists_at (h : m.Sound intact dropped sc) (hstate : sc.states role ≠ .noImage) :
  ∃ host, m.At sc role host
  := by
  obtain ⟨id, hid⟩ := h.exists_hostFor hstate
  obtain ⟨host, hhost⟩ := h.isThere id (mem_hosts_of_hostFor hid)
  obtain rfl := h.id_eq hhost
  exact ⟨host, hid, hhost⟩

theorem at_of_hosts (h : m.Sound intact dropped sc) (hid : m.hostFor role = .ok id)
    (hhost : sc.hosts id = some host) :
  m.At sc role host
  := by
  obtain rfl := h.id_eq hhost
  exact ⟨hid, hhost⟩

theorem ne_launching (h : m.Sound intact dropped sc) (role : Role) :
  sc.states role ≠ .launching
  := by
  intro hstate
  obtain ⟨host, hat⟩ := h.exists_at (by rw [hstate]; rintro ⟨⟩)
  exact (h.upholds hat).ne_launching hstate

theorem knowsIn (h : m.Sound intact dropped sc) (hunit : (sc.states role).unit? = some unit) :
  m.KnowsIn dropped sc unit
  := by
  obtain ⟨host, hat⟩ := h.exists_at (by
    intro hstate
    rw [hstate] at hunit
    cases hunit)
  exact ⟨role, host, hat, h.knows hat hunit⟩

end Sound

/-! ### Advancing -/

/-- From one scene to another every host carries what holds of the roles that are placed on it. -/
structure Moves (m : Manager) (intact : Prop) (dropped : List UnitHandle)
    (changes : Role → UnitState → UnitState → Prop) (sc sc' : Scene) : Prop where
  eq_none : ∀ {id : HostId}, sc.hosts id = none → sc'.hosts id = none
  exists_carries : ∀ {id : HostId} {host : Memory}, sc.hosts id = some host →
    ∃ host', sc'.hosts id = some host' ∧ host'.id = host.id ∧ ∀ role, m.hostFor role = .ok id →
      m.Carries intact dropped changes role (sc.states role) (sc'.states role) host host'
  states_eq : ∀ {role : Role}, (∀ id, m.hostFor role ≠ .ok id) →
    sc'.states role = sc.states role

/-- A scene follows another that was sound. -/
structure Advances (m : Manager) (intact : Prop) (dropped : List UnitHandle)
    (changes : Role → UnitState → UnitState → Prop) (sc sc' : Scene) : Prop where
  sound : m.Sound intact dropped sc'
  knowsIn : ∀ unit, m.KnowsIn dropped sc unit → m.KnowsIn dropped sc' unit
  isTaggedAt : m.IsApart → ∀ role, m.IsTaggedAt sc role → m.IsTaggedAt sc' role
  changes_states : ∀ role, ReflTransGen (changes role) (sc.states role) (sc'.states role)

theorem Advances.trans (h : m.Advances intact dropped changes sc sc')
    (h' : m.Advances intact dropped changes sc' sc'') :
  m.Advances intact dropped changes sc sc''
  where
    sound := h'.sound
    knowsIn := fun unit hunit => h'.knowsIn unit (h.knowsIn unit hunit)
    isTaggedAt := fun hapart role htagged =>
      h'.isTaggedAt hapart role (h.isTaggedAt hapart role htagged)
    changes_states := fun role => (h.changes_states role).trans (h'.changes_states role)

theorem Advances.mono (h : m.Advances intact dropped changes sc sc') (himp : intact' → intact) :
  m.Advances intact' dropped changes sc sc'
  where
    sound := h.sound.mono himp (List.Subset.refl _)
    knowsIn := h.knowsIn
    isTaggedAt := h.isTaggedAt
    changes_states := h.changes_states

theorem Sound.advances_refl (h : m.Sound intact dropped sc) :
  m.Advances intact dropped changes sc sc
  := ⟨h, fun _ hunit => hunit, fun _ _ htagged => htagged, fun _ => .refl⟩

namespace Moves

variable (hmoves : m.Moves intact dropped changes sc sc')

include hmoves

/-- A role is placed where it was before. -/
theorem exists_at_before (hat : m.At sc' role host') :
  ∃ host, m.At sc role host
    ∧ m.Carries intact dropped changes role (sc.states role) (sc'.states role) host host'
  := by
  cases hhost : sc.hosts host'.id with
  | none =>
      have hnone := hat.hosts_eq.symm.trans (hmoves.eq_none hhost)
      cases hnone
  | some host =>
      obtain ⟨found, hfound, hid, hcarries⟩ := hmoves.exists_carries hhost
      obtain rfl := Option.some_inj.mp (hat.hosts_eq.symm.trans hfound)
      refine ⟨host, ⟨?_, ?_⟩, hcarries role hat.hostFor_eq⟩
      · rw [← hid]
        exact hat.hostFor_eq
      · rw [← hid]
        exact hhost

theorem exists_at_behind (hat : m.At sc role host) :
  ∃ host', m.At sc' role host'
    ∧ m.Carries intact dropped changes role (sc.states role) (sc'.states role) host host'
  := by
  obtain ⟨host', hhost', hid, hcarries⟩ := hmoves.exists_carries hat.hosts_eq
  refine ⟨host', ⟨?_, ?_⟩, hcarries role hat.hostFor_eq⟩
  · rw [hid]
    exact hat.hostFor_eq
  · rw [hid]
    exact hhost'

end Moves

/-- A sound scene advances where its hosts carry what holds of the roles. -/
theorem Sound.advances (h : m.Sound intact dropped sc)
    (hmoves : m.Moves intact dropped changes sc sc') :
  m.Advances intact dropped changes sc sc'
  where
    sound := by
      constructor
      · intro id hid
        obtain ⟨host, hhost⟩ := h.isThere id hid
        obtain ⟨host', hhost', -⟩ := hmoves.exists_carries hhost
        exact ⟨host', hhost'⟩
      · intro id host' hhost'
        cases hhost : sc.hosts id with
        | none =>
            rw [hmoves.eq_none hhost] at hhost'
            cases hhost'
        | some host =>
            obtain ⟨found, hfound, hid, -⟩ := hmoves.exists_carries hhost
            obtain rfl := Option.some_inj.mp (hfound.symm.trans hhost')
            rw [hid, h.id_eq hhost]
      · intro role hstate
        by_contra hnone
        rw [not_exists] at hnone
        rw [hmoves.states_eq hnone] at hstate
        obtain ⟨id, hid⟩ := h.exists_hostFor hstate
        exact hnone id hid
      · intro role host' hat
        obtain ⟨host, hbefore, hcarries⟩ := hmoves.exists_at_before hat
        exact hcarries.upholds (h.upholds hbefore) fun _ => h.knows hbefore
      · intro role host' unit hat hunit
        obtain ⟨host, hbefore, hcarries⟩ := hmoves.exists_at_before hat
        obtain hunit | hknows := hcarries.knows_unit unit hunit
        · exact hcarries.knows unit (h.knows hbefore hunit)
        · exact hknows
    knowsIn := by
      rintro unit ⟨role, host, hat, hknows⟩
      obtain ⟨host', hat', hcarries⟩ := hmoves.exists_at_behind hat
      exact ⟨role, host', hat', hcarries.knows unit hknows⟩
    isTaggedAt := by
      intro hapart role htagged host' hat
      obtain ⟨host, hbefore, hcarries⟩ := hmoves.exists_at_before hat
      exact hcarries.isTagged hapart (htagged host hbefore)
    changes_states := by
      intro role
      by_cases hplaced : ∃ id, m.hostFor role = .ok id
      · obtain ⟨id, hid⟩ := hplaced
        obtain ⟨host, hhost⟩ := h.isThere id (mem_hosts_of_hostFor hid)
        obtain ⟨host', -, hcarries⟩ := hmoves.exists_at_behind (h.at_of_hosts hid hhost)
        exact hcarries.changes_states
      · rw [not_exists] at hplaced
        rw [hmoves.states_eq hplaced]

/-! ### Changes of one host -/

/-- One host changes, and with it the state of one role that is placed there. -/
theorem Sound.advances_step {state : UnitState} (h : m.Sound intact dropped sc)
    (hat : m.At sc role host) (hid : host'.id = host.id)
    (hrole : m.Carries intact dropped changes role (sc.states role) state host host')
    (hothers : ∀ other, other ≠ role →
      m.Carries intact dropped changes other (sc.states other) (sc.states other) host host') :
  m.Advances intact dropped changes sc ((sc.setHost host.id host').setState role state)
  := by
  apply h.advances
  have hstate : ∀ {other : Role}, other ≠ role →
      ((sc.setHost host.id host').setState role state).states other = sc.states other :=
    fun hne => Function.update_of_ne hne _ _
  constructor
  · intro id hnone
    rw [Scene.hosts_setState, Scene.hosts_setHost, Function.update_of_ne]
    · exact hnone
    · rintro rfl
      rw [hat.hosts_eq] at hnone
      cases hnone
  · intro id found hfound
    rw [Scene.hosts_setState, Scene.hosts_setHost]
    by_cases heq : id = host.id
    · subst heq
      obtain rfl := Option.some_inj.mp (hat.hosts_eq.symm.trans hfound)
      refine ⟨host', Function.update_self _ _ _, hid, ?_⟩
      intro other hother
      by_cases hne : other = role
      · subst hne
        rw [Scene.states_setState, Function.update_self]
        exact hrole
      · rw [hstate hne]
        exact hothers other hne
    · refine ⟨found, by rw [Function.update_of_ne heq, hfound], rfl, ?_⟩
      intro other hother
      have hne : other ≠ role := by
        rintro rfl
        rw [hat.hostFor_eq] at hother
        cases hother
        exact heq rfl
      rw [hstate hne]
      exact .of_units_eq rfl rfl rfl fun _ htagged => htagged
  · intro other hnone
    apply hstate
    rintro rfl
    exact hnone _ hat.hostFor_eq

/-- One host changes, and no state. -/
theorem Sound.advances_setHost (h : m.Sound intact dropped sc) (hhost : sc.hosts id = some host)
    (hid : host'.id = host.id)
    (hcarries : ∀ role,
      m.Carries intact dropped changes role (sc.states role) (sc.states role) host host') :
  m.Advances intact dropped changes sc (sc.setHost id host')
  := by
  apply h.advances
  constructor
  · intro other hnone
    rw [Scene.hosts_setHost, Function.update_of_ne]
    · exact hnone
    · rintro rfl
      rw [hhost] at hnone
      cases hnone
  · intro other found hfound
    rw [Scene.hosts_setHost]
    by_cases heq : other = id
    · subst heq
      obtain rfl := Option.some_inj.mp (hhost.symm.trans hfound)
      exact ⟨host', Function.update_self _ _ _, hid, fun role _ => hcarries role⟩
    · refine ⟨found, by rw [Function.update_of_ne heq, hfound], rfl, fun role _ => ?_⟩
      exact .of_units_eq rfl rfl rfl fun _ htagged => htagged
  · intro _ _
    rfl

/-! ### Operations on sound scenes -/

section Operations

open Scene

/-- Launching a role on a sound scene. -/
theorem Sound.leads_runRole (h : m.Sound intact dropped sc)
    (hchange : ∀ state unit, state.canLaunch = true → changes role state (.running unit))
    {command : String} {flags : UnitFlags} :
  sc.Leads (m.runRole role command flags) fun r sc' => m.Advances intact dropped changes sc sc'
    ∧ ∀ unit, r = .ok unit → m.KnowsIn dropped sc' unit
  := by
  have hnone : ∀ (e : Error) (sc' : Scene) (unit : UnitHandle),
      (Except.error e : Except Error UnitHandle) = .ok unit → m.KnowsIn dropped sc' unit := by
    rintro e sc' unit ⟨⟩
  apply Story.leads_of_goes
  apply goes_runRole h.isThere
  · exact fun e _ => ⟨h.advances_refl, hnone e _⟩
  · exact fun e _ => ⟨h.advances_refl, hnone e _⟩
  · intro id host e hid hhost _
    exact ⟨h.advances_setHost hhost rfl fun _ => .withRequest _, hnone e _⟩
  · intro id host unit hid hhost hcan himage hname hunit
    obtain rfl := h.id_eq hhost
    have hadvances : m.Advances intact dropped changes sc ((sc.setHost host.id
        (Memory.withUnit (m.specFor command flags role) host)).setState role (.running unit)) := by
      apply h.advances_step ⟨hid, hhost⟩
      · rfl
      · exact .launch hcan hname rfl (List.mem_singleton_self _) hunit (hchange _ _ hcan)
      · intro other hne
        exact .launch_other fun heq => hne (Role.text_id_inj.mp heq).symm
    have hstate : (((sc.setHost host.id (Memory.withUnit (m.specFor command flags role)
        host)).setState role (.running unit)).states role).unit? = some unit := by
      rw [states_setState, Function.update_self]
      rfl
    refine ⟨hadvances, ?_⟩
    rintro _ ⟨⟩
    exact hadvances.sound.knowsIn hstate

/-- Waiting for a unit that is found on a sound scene. -/
theorem Sound.advances_exit (h : m.Sound intact dropped sc) {u : KeptUnit}
    (hfinds : m.Finds sc unit role host u)
    (hchange : ∀ status, changes role (.running unit) (.exited unit status)) :
  m.Advances intact dropped changes sc (sc.exit role unit u.result.status)
  := by
  rw [exit]
  split_ifs with hstate
  · obtain ⟨found, hat⟩ := h.exists_at (by rw [hstate]; rintro ⟨⟩)
    have hknows : m.Knows dropped role (sc.states role) found unit :=
      h.knows hat (by rw [hstate]; rfl)
    have hhost := hfinds.hosts_eq
    rw [hknows.host_eq] at hhost
    obtain rfl := Option.some_inj.mp (hat.hosts_eq.symm.trans hhost)
    have hsame : sc.setState role (.exited unit u.result.status)
        = (sc.setHost found.id found).setState role (.exited unit u.result.status) := by
      rw [setHost_eq_self hat.hosts_eq]
    rw [hsame]
    apply h.advances_step hat
    · rfl
    · rw [hstate]
      exact .exit hfinds.getElem?_units (hchange _)
    · intro other _
      exact .of_units_eq rfl rfl rfl fun _ htagged => htagged
  · exact h.advances_refl

/-- Committing a unit that was launched on a sound scene. -/
theorem Sound.leads_commitUnit (h : m.Sound intact dropped sc) (hunit : m.KnowsIn dropped sc unit)
    (hexit : ∀ role status, changes role (.running unit) (.exited unit status))
    (hcommit : ∀ role, changes role (.exited unit 0) .committed)
    (hrecommit : ∀ role, unit ∈ dropped → unit.role = role.id →
      changes role .baseImage .committed) :
  sc.Leads (m.commitUnit unit) fun _ sc' => m.Advances intact dropped changes sc sc'
  := by
  apply Story.leads_of_goes
  obtain hlost | ⟨role, host, u, hfinds⟩ := m.isLost_or_finds sc unit
  · apply hlost.goes_commitUnit h.isThere
    intro e
    exact h.advances_refl
  · apply hfinds.goes_commitUnit
    · rintro e -
      exact h.advances_exit hfinds (hexit role)
    · intro hstatus _
      obtain ⟨found, foundHost, hat, hknows⟩ := hunit
      have hrole := roleOf_eq_ok (mem_roles_of_hostFor hat.hostFor_eq) hknows.role_eq
      obtain rfl := Except.ok.inj (hrole.symm.trans hfinds.roleOf_eq)
      have hhost := hfinds.hosts_eq
      rw [hknows.host_eq] at hhost
      obtain rfl := Option.some_inj.mp (hat.hosts_eq.symm.trans hhost)
      have hkept := hknows.isKept hfinds.getElem?_units
      have hchange : ReflTransGen (changes found) (sc.states found) .committed := by
        obtain hstate | hstate | ⟨hstate, hdropped⟩ := hkept.state_eq
        · rw [hstate]
          exact .tail (.single (hexit found 0)) (hcommit found)
        · rw [hstate, hstatus]
          exact .single (hcommit found)
        · rw [hstate]
          exact .single (hrecommit found hdropped hknows.role_eq)
      rw [hknows.host_eq]
      apply h.advances_step hat
      · rfl
      · exact .commit (mem_roles_of_hostFor hat.hostFor_eq) hknows hfinds.getElem?_units hchange
      · intro other hne
        exact .commit_other (mem_roles_of_hostFor hat.hostFor_eq) hne hfinds.getElem?_units
          hkept.name_eq

/-- Putting a role back on a sound scene; no other role exits by it. -/
theorem Sound.leads_prepareImage (h : m.Sound intact dropped sc)
    (hdropped : ∀ unit status, sc.states role = .exited unit status → unit ∈ dropped)
    (hchange : ∀ state, state.isBusy = false → changes role state .baseImage) :
  sc.Leads (m.prepareImage role) fun _ sc' => m.Advances intact dropped changes sc sc'
    ∧ ∀ other unit status, sc'.states other = .exited unit status →
      sc.states other = .exited unit status
  := by
  apply leads_prepareImage_of_isThere h.isThere
  · exact fun _ => ⟨h.advances_refl, fun _ _ _ hstate => hstate⟩
  · exact fun e _ _ => ⟨h.advances_refl, fun _ _ _ hstate => hstate⟩
  · intro id host e _ hid hhost hbase
    constructor
    · exact h.advances_setHost hhost rfl fun _ => .untagged (mem_roles_of_hostFor hid) hbase
    · exact fun _ _ _ hstate => hstate
  · intro id host image hbusy hid hhost himage
    obtain rfl := h.id_eq hhost
    constructor
    · apply h.advances_step ⟨hid, hhost⟩
      · rfl
      · apply Carries.prepare hbusy _ hdropped (hchange _ hbusy)
        rw [Std.ExtTreeMap.mem_iff_isSome_getElem?, himage]
        rfl
      · intro other hne
        exact .prepare_other (mem_roles_of_hostFor hid) hne
    · intro other unit status hstate
      rw [states_setState] at hstate
      by_cases heq : other = role
      · rw [heq, Function.update_self] at hstate
        cases hstate
      · rw [Function.update_of_ne heq] at hstate
        exact hstate

/-- Some units were removed by a cleaning that broke off. -/
theorem Sound.advances_cleans (h : m.Sound intact dropped sc) (hcleans : Fabric.Cleans sc sc') :
  m.Advances False dropped changes sc sc'
  := by
  apply (h.mono False.elim (List.Subset.refl _)).advances
  constructor
  · intro id hnone
    obtain ⟨refs, hrefs⟩ := hcleans.exists_refs id
    rw [hrefs, hnone, Option.map_none]
  · intro id host hhost
    obtain ⟨refs, hrefs⟩ := hcleans.exists_host hhost
    refine ⟨_, hrefs, rfl, fun role _ => ?_⟩
    rw [hcleans.states_eq]
    exact .clean refs
  · intro role _
    rw [hcleans.states_eq]

/-- Cleaning on a sound scene; if it breaks off units may be gone. -/
theorem Sound.leads_cleanAll (h : m.Sound intact dropped sc)
    (hchange : ∀ role state, changes role state .noImage) :
  sc.Leads m.cleanAll fun r sc' => m.Advances (intact ∧ ∃ n, r = .ok n) dropped changes sc sc'
  := by
  apply leads_bind
  apply Fabric.leads_cleanAll_of_isThere h.isThere
  · rintro e sc' hcleans -
    have hnone : (intact ∧ ∃ n, (Except.error e : Except Error Nat) = .ok n) = False := by
      simp
    rw [Then, hnone]
    exact h.advances_cleans hcleans
  · have hcleans := Fabric.cleans_swept sc m.label m.fabric.hosts
    apply leads_bind
    apply leads_forgetStates
    apply leads_pure
    apply (h.mono And.left (List.Subset.refl _)).advances
    constructor
    · intro id hnone
      obtain ⟨refs, hrefs⟩ := hcleans.exists_refs id
      rw [hrefs, hnone, Option.map_none]
    · intro id host hhost
      obtain ⟨refs, hrefs⟩ := hcleans.exists_host hhost
      refine ⟨_, hrefs, rfl, fun role hid => ?_⟩
      exact .reset (Fabric.isCleanAt_swept (mem_hosts_of_hostFor hid) _ hrefs) (hchange _ _)
    · intro role hplaced
      by_contra hstate
      obtain ⟨id, hid⟩ := h.exists_hostFor (Ne.symm hstate)
      exact hplaced id hid

/-! ### Operations on several roles or units -/

/-- Jobs that lead on from sound scenes do so together, however far they get.  What they need and
what they yield is not lost when a scene advances. -/
theorem Sound.leads_all {α : Type} (Needs : Scene → Prop) (Good : α → Scene → Prop)
    (h : m.Sound intact dropped sc) (hneeds : Needs sc)
    (hneeds' : ∀ {sc sc'}, m.Advances intact dropped changes sc sc' → Needs sc → Needs sc')
    (hgood : ∀ {sc sc' a}, m.Advances intact dropped changes sc sc' → Good a sc → Good a sc')
    {jobs : List (Job α)}
    (hjobs : ∀ job ∈ jobs, ∀ {sc}, m.Sound intact dropped sc → Needs sc →
      sc.Leads job fun r sc' => m.Advances intact dropped changes sc sc'
        ∧ ∀ a, r = .ok a → Good a sc') :
  sc.Leads (Program.all jobs) fun r sc' => m.Advances intact dropped changes sc sc'
    ∧ ∀ as, r = .ok as → ∀ a ∈ as, Good a sc'
  := by
  have htogether : sc.Leads (Program.all jobs) fun r sc' =>
      (m.Advances intact dropped changes sc sc' ∧ Needs sc')
        ∧ ∀ as, r = .ok as → ∀ a ∈ as, Good a sc' := by
    apply leads_all_of_forall
      (fun sc sc' => m.Advances intact dropped changes sc sc' ∧ Needs sc') Good
    · rintro _ _ ⟨hadvances, hneeds⟩
      exact ⟨hadvances.sound.advances_refl, hneeds⟩
    · rintro _ _ _ ⟨hfirst, -⟩ ⟨hsecond, hneeds⟩
      exact ⟨hfirst.trans hsecond, hneeds⟩
    · rintro a _ _ hgoods ⟨hadvances, -⟩
      exact hgood hadvances hgoods
    · rintro job hjob u ⟨hadvances, hneeds⟩
      apply (hjobs job hjob hadvances.sound hneeds).mono
      rintro r u' ⟨hadvances, hgoods⟩
      exact ⟨⟨hadvances, hneeds' hadvances hneeds⟩, hgoods⟩
    · exact ⟨h.advances_refl, hneeds⟩
  apply htogether.mono
  rintro r sc' ⟨⟨hadvances, -⟩, hgoods⟩
  exact ⟨hadvances, hgoods⟩

theorem Sound.leads_runAll (h : m.Sound intact dropped sc) {command : String} {roles : List Role}
    {flags : UnitFlags}
    (hchange : ∀ role ∈ roles, ∀ state unit, state.canLaunch = true →
      changes role state (.running unit)) :
  sc.Leads (m.runAll command roles flags) fun r sc' => m.Advances intact dropped changes sc sc'
    ∧ ∀ units, r = .ok units → ∀ unit ∈ units, m.KnowsIn dropped sc' unit
  := by
  apply h.leads_all (fun _ => True) (fun unit sc => m.KnowsIn dropped sc unit) trivial
  · intros
    trivial
  · intro _ _ unit hadvances hunit
    exact hadvances.knowsIn unit hunit
  · intro job hjob sc h _
    obtain ⟨role, hrole, rfl⟩ := List.mem_map.mp hjob
    exact h.leads_runRole (hchange role hrole)

theorem Sound.leads_wait (h : m.Sound intact dropped sc)
    (hchange : ∀ role status, changes role (.running unit) (.exited unit status)) :
  sc.Leads (m.wait unit) fun _ sc' => m.Advances intact dropped changes sc sc'
  := by
  obtain hlost | ⟨role, host, u, hfinds⟩ := m.isLost_or_finds sc unit
  · apply hlost.leads_wait h.isThere
    intro e
    exact h.advances_refl
  · apply hfinds.leads_wait
    exact h.advances_exit hfinds (hchange role)

theorem Sound.leads_waitAll (h : m.Sound intact dropped sc) {units : List UnitHandle}
    (hchange : ∀ unit ∈ units, ∀ role status,
      changes role (.running unit) (.exited unit status)) :
  sc.Leads (m.waitAll units) fun _ sc' => m.Advances intact dropped changes sc sc'
  := by
  have hall : sc.Leads (m.waitAll units) fun r sc' => m.Advances intact dropped changes sc sc'
      ∧ ∀ statuses, r = .ok statuses → ∀ _ ∈ statuses, True := by
    apply h.leads_all (fun _ => True) (fun _ _ => True) trivial
    · intros
      trivial
    · intros
      trivial
    · intro job hjob sc h _
      obtain ⟨unit, hunit, rfl⟩ := List.mem_map.mp hjob
      apply (h.leads_wait (hchange unit hunit)).mono
      intro r sc' hadvances
      exact ⟨hadvances, fun _ _ => trivial⟩
  apply hall.mono
  intro r sc' hq
  exact hq.1

theorem Sound.leads_ensureSuccess (h : m.Sound intact dropped sc)
    (hchange : ∀ role status, changes role (.running unit) (.exited unit status)) :
  sc.Leads (m.ensureSuccess unit) fun _ sc' => m.Advances intact dropped changes sc sc'
  := by
  obtain hlost | ⟨role, host, u, hfinds⟩ := m.isLost_or_finds sc unit
  · apply hlost.leads_ensureSuccess h.isThere
    intro e
    exact h.advances_refl
  · apply hfinds.leads_ensureSuccess
    exact h.advances_exit hfinds (hchange role)

theorem Sound.leads_commit (h : m.Sound intact dropped sc) {units : List UnitHandle}
    (hunits : ∀ unit ∈ units, m.KnowsIn dropped sc unit)
    (hexit : ∀ unit ∈ units, ∀ role status, changes role (.running unit) (.exited unit status))
    (hcommit : ∀ unit ∈ units, ∀ role, changes role (.exited unit 0) .committed)
    (hrecommit : ∀ unit ∈ units, ∀ role, unit ∈ dropped → unit.role = role.id →
      changes role .baseImage .committed) :
  sc.Leads (m.commit units) fun _ sc' => m.Advances intact dropped changes sc sc'
  := by
  have hall : sc.Leads (Program.all (units.map m.commitUnit)) fun r sc' =>
      m.Advances intact dropped changes sc sc' ∧ ∀ done, r = .ok done → ∀ _ ∈ done, True := by
    apply h.leads_all (fun sc => ∀ unit ∈ units, m.KnowsIn dropped sc unit) (fun _ _ => True) hunits
    · intro _ _ hadvances hunits unit hunit
      exact hadvances.knowsIn unit (hunits unit hunit)
    · intros
      trivial
    · intro job hjob sc h hunits
      obtain ⟨unit, hunit, rfl⟩ := List.mem_map.mp hjob
      apply (h.leads_commitUnit (hunits unit hunit) (hexit unit hunit) (hcommit unit hunit)
        (hrecommit unit hunit)).mono
      intro r sc' hadvances
      exact ⟨hadvances, fun _ _ => trivial⟩
  apply leads_bind
  apply hall.mono
  rintro (e | done) sc' ⟨hadvances, -⟩
  · exact hadvances
  · exact leads_pure hadvances

theorem Sound.leads_prepareImages (h : m.Sound intact dropped sc)
    (hdropped : ∀ role unit status, sc.states role = .exited unit status → unit ∈ dropped)
    (hchange : ∀ role state, state.isBusy = false → changes role state .baseImage) :
  sc.Leads m.prepareImages fun _ sc' => m.Advances intact dropped changes sc sc'
  := by
  have hall : sc.Leads m.prepareImages fun _ sc' => m.Advances intact dropped changes sc sc'
      ∧ ∀ role unit status, sc'.states role = .exited unit status → unit ∈ dropped := by
    apply leads_forEach_of_forall (fun sc sc' => m.Advances intact dropped changes sc sc'
        ∧ ∀ role unit status, sc'.states role = .exited unit status → unit ∈ dropped)
    · rintro _ _ ⟨hadvances, hdropped⟩
      exact ⟨hadvances.sound.advances_refl, hdropped⟩
    · rintro _ _ _ ⟨hfirst, -⟩ ⟨hsecond, hdropped⟩
      exact ⟨hfirst.trans hsecond, hdropped⟩
    · rintro role - u ⟨hadvances, hdropped⟩
      apply (hadvances.sound.leads_prepareImage (hdropped role) (hchange role)).mono
      rintro r u' ⟨hadvances, hexited⟩
      refine ⟨hadvances, ?_⟩
      intro other unit status hstate
      exact hdropped other unit status (hexited other unit status hstate)
    · exact ⟨h.advances_refl, hdropped⟩
  apply hall.mono
  intro r sc' hq
  exact hq.1

end Operations

end Manager

end JoinBench
