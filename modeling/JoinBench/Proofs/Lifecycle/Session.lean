import JoinBench.Proofs.Lifecycle.Sound

/-!
# Sessions of a manager

In a session the operations of a manager are called in any order, with units that the manager has
handed out before, and hosts may go down in between.  Every operation of a session comes to its
end, and leaves a scene that is sound.  The states of the roles only make the changes that belong
to the operation.
-/

namespace JoinBench

/-- Hosts of a name go down behind so many launches. -/
def Host.Cluster.goDown (id : HostId) (runs : Nat) (cluster : Cluster) : Cluster :=
  cluster.map fun host => if host.id = id then host.goDownBehind runs else host

namespace Manager

open Host Relation

/-! ### Operations -/

/-- A call of a manager. -/
inductive Operation where
  | cleanAll
  | prepareImages
  | runRole (role : Role) (command : String) (flags : UnitFlags)
  | runAll (command : String) (roles : List Role) (flags : UnitFlags)
  | wait (unit : UnitHandle)
  | waitAll (units : List UnitHandle)
  | ensureSuccess (unit : UnitHandle)
  | commit (units : List UnitHandle)
deriving DecidableEq

namespace Operation

/-- The job of an operation; it yields the units that are handed out. -/
def job (m : Manager) : Operation → Job (List UnitHandle)
  | cleanAll => do
    let _ ← m.cleanAll
    return []
  | prepareImages => do
    m.prepareImages
    return []
  | runRole role command flags => do
    let unit ← m.runRole role command flags
    return [unit]
  | runAll command roles flags => m.runAll command roles flags
  | wait unit => do
    let _ ← m.wait unit
    return []
  | waitAll units => do
    let _ ← m.waitAll units
    return []
  | ensureSuccess unit => do
    m.ensureSuccess unit
    return []
  | commit units => do
    m.commit units
    return []

/-- The roles that an operation launches. -/
def roles : Operation → List Role
  | runRole role _ _ => [role]
  | runAll _ roles _ => roles
  | _ => []

/-- The units that an operation waits for. -/
def units : Operation → List UnitHandle
  | wait unit => [unit]
  | waitAll units => units
  | ensureSuccess unit => [unit]
  | commit units => units
  | _ => []

/-- The units that an operation makes checkpoints. -/
def commits : Operation → List UnitHandle
  | commit units => units
  | _ => []

/-- The units that lose their roles to the base image. -/
def drops (m : Manager) (states : Role → UnitState) : Operation → List UnitHandle
  | prepareImages => m.topology.roles.filterMap fun role =>
    match states role with
    | .exited unit _ => some unit
    | _ => none
  | _ => []

/-- Cleaning has not failed. -/
def isClean : Operation → Option (Except Error (List UnitHandle)) → Bool
  | cleanAll, some (.ok _) => true
  | cleanAll, _ => false
  | _, _ => true

/-- The changes that an operation makes to the state of a role.  Where a unit has lost its role to
the base image and is there still, it can be committed. -/
inductive Changes (op : Operation) (dropped : List UnitHandle) (role : Role) :
    UnitState → UnitState → Prop where
  | launch {state : UnitState} {unit : UnitHandle} (hrole : role ∈ op.roles)
    (hcan : state.canLaunch = true) : Changes op dropped role state (.running unit)
  | exit {unit : UnitHandle} {status : Int} (hunit : unit ∈ op.units) :
    Changes op dropped role (.running unit) (.exited unit status)
  | commit {unit : UnitHandle} (hunit : unit ∈ op.commits) :
    Changes op dropped role (.exited unit 0) .committed
  | recommit {unit : UnitHandle} (hunit : unit ∈ op.commits) (hdropped : unit ∈ dropped)
    (hrole : unit.role = role.id) : Changes op dropped role .baseImage .committed
  | reset {state : UnitState} (hop : op = .cleanAll) : Changes op dropped role state .noImage
  | prepare {state : UnitState} (hop : op = .prepareImages) (hbusy : state.isBusy = false) :
    Changes op dropped role state .baseImage

end Operation

section Leading

open Scene

variable {m : Manager} {intact : Prop} {dropped : List UnitHandle}
  {changes : Role → UnitState → UnitState → Prop} {sc : Scene}

/-- A job that hands out nothing; it has to be said of nothing that it is known. -/
theorem leads_nothing {α : Type} {job : Job α} {clean : Except Error (List UnitHandle) → Prop}
    (h : sc.Leads job fun _ sc' => m.Advances intact dropped changes sc sc') :
  sc.Leads (do let _ ← job; return []) fun r sc' =>
    m.Advances (intact ∧ clean r) dropped changes sc sc'
      ∧ ∀ units, r = .ok units → ∀ unit ∈ units, m.KnowsIn dropped sc' unit
  := by
  apply leads_bind
  apply h.mono
  rintro (e | a) sc' hadvances
  · refine ⟨hadvances.mono And.left, ?_⟩
    rintro _ ⟨⟩
  · rw [Then]
    apply leads_pure
    refine ⟨hadvances.mono And.left, ?_⟩
    rintro _ ⟨⟩ unit hunit
    cases hunit

/-- On a sound scene every operation with units that were launched comes to its end. -/
theorem Sound.leads_job (h : m.Sound intact dropped sc) {op : Operation}
    (hunits : ∀ unit ∈ op.units, m.KnowsIn dropped sc unit)
    (hdropped : ∀ unit ∈ op.drops m sc.states, unit ∈ dropped) :
  sc.Leads (op.job m) fun r sc' =>
    m.Advances (intact ∧ op.isClean (some r) = true) dropped (op.Changes dropped) sc sc'
      ∧ ∀ units, r = .ok units → ∀ unit ∈ units, m.KnowsIn dropped sc' unit
  := by
  cases op with
  | cleanAll =>
      apply leads_bind
      apply (h.leads_cleanAll fun role state => Operation.Changes.reset rfl).mono
      rintro (e | n) sc' hadvances
      · refine ⟨hadvances.mono ?_, ?_⟩
        · rintro ⟨-, ⟨⟩⟩
        · rintro _ ⟨⟩
      · rw [Then]
        apply leads_pure
        refine ⟨hadvances.mono ?_, ?_⟩
        · exact fun hintact => ⟨hintact.1, n, rfl⟩
        · rintro _ ⟨⟩ unit hunit
          cases hunit
  | prepareImages =>
      apply leads_nothing
      apply h.leads_prepareImages
      · intro role unit status hstate
        obtain ⟨host, hat⟩ := h.exists_at (by rw [hstate]; rintro ⟨⟩)
        apply hdropped
        apply List.mem_filterMap.mpr
        exact ⟨role, mem_roles_of_hostFor hat.hostFor_eq, by rw [hstate]⟩
      · intro role state hbusy
        exact .prepare rfl hbusy
  | runRole role command flags =>
      have hlaunch : ∀ state unit, state.canLaunch = true →
          (Operation.runRole role command flags).Changes dropped role state (.running unit) :=
        fun state unit hcan => .launch (List.mem_singleton_self role) hcan
      apply leads_bind
      apply (h.leads_runRole hlaunch).mono
      rintro (e | unit) sc' ⟨hadvances, hunit⟩
      · refine ⟨hadvances.mono And.left, ?_⟩
        rintro _ ⟨⟩
      · rw [Then]
        apply leads_pure
        refine ⟨hadvances.mono And.left, ?_⟩
        rintro _ ⟨⟩
        rw [List.forall_mem_singleton]
        exact hunit unit rfl
  | runAll command roles flags =>
      have hlaunch : ∀ role ∈ roles, ∀ state unit, state.canLaunch = true →
          (Operation.runAll command roles flags).Changes dropped role state (.running unit) :=
        fun role hrole state unit hcan => .launch hrole hcan
      apply (h.leads_runAll hlaunch).mono
      rintro r sc' ⟨hadvances, hunits⟩
      exact ⟨hadvances.mono And.left, hunits⟩
  | wait unit =>
      apply leads_nothing
      exact h.leads_wait fun role status => .exit (List.mem_singleton_self unit)
  | waitAll units =>
      apply leads_nothing
      exact h.leads_waitAll fun unit hunit role status => .exit hunit
  | ensureSuccess unit =>
      apply leads_nothing
      exact h.leads_ensureSuccess fun role status => .exit (List.mem_singleton_self unit)
  | commit units =>
      apply leads_nothing
      apply h.leads_commit hunits
      · exact fun unit hunit role status => .exit hunit
      · exact fun unit hunit role => .commit hunit
      · exact fun unit hunit role hdrop hrole => .recommit hunit hdrop hrole

end Leading

/-! ### Sessions -/

/-- The surroundings of a manager, and what became of its calls. -/
structure Session where
  world : World Cluster
  /-- The units that were handed out. -/
  handles : List UnitHandle
  /-- The units that lost their roles to the base image. -/
  dropped : List UnitHandle
  /-- No cleaning has failed. -/
  intact : Bool

namespace Session

/-- What happens in a session. -/
inductive Event where
  | operate (op : Operation)
  /-- The state of a role is looked at, which hands out its unit. -/
  | look (role : Role)
  | goDown (id : HostId) (runs : Nat)
deriving DecidableEq

namespace Event

/-- The units that an event names. -/
def units : Event → List UnitHandle
  | operate op => op.units
  | _ => []

/-- The changes that an event makes to the state of a role. -/
def Changes (dropped : List UnitHandle) (role : Role) : Event → UnitState → UnitState → Prop
  | operate op => op.Changes dropped role
  | _ => fun _ _ => False

end Event

/-- A session over some hosts in which nothing has happened. -/
def start (hosts : Cluster) : Session where
  world := .start hosts []
  handles := []
  dropped := []
  intact := true

/-- The units that a result hands out. -/
def handedOut : Option (Except Error (List UnitHandle)) → List UnitHandle
  | some (.ok units) => units
  | _ => []

/-- The session behind an event. -/
def step (m : Manager) (s : Session) : Event → Session
  | .operate op =>
    let (result, world) := World.run Cluster.layer (op.job m) s.world
    { world := world
      handles := s.handles ++ handedOut result
      dropped := s.dropped ++ op.drops m s.world.states
      intact := s.intact && op.isClean result }
  | .look role => { s with handles := s.handles ++ (s.world.states role).unit?.toList }
  | .goDown id runs =>
    { s with world := { s.world with hosts := s.world.hosts.goDown id runs } }

/-- The session behind several events. -/
def run (m : Manager) (s : Session) (events : List Event) : Session :=
  events.foldl (step m) s

/-- The events only name units that were handed out before them. -/
def Admits (m : Manager) : Session → List Event → Prop
  | _, [] => True
  | s, event :: rest => (∀ unit ∈ event.units, unit ∈ s.handles) ∧ (s.step m event).Admits m rest

instance decidableAdmits (m : Manager) :
    (s : Session) → (events : List Event) → Decidable (s.Admits m events)
  | _, [] => inferInstanceAs (Decidable True)
  | s, event :: rest =>
    have := decidableAdmits m (s.step m event) rest
    inferInstanceAs (Decidable (_ ∧ _))

variable {m : Manager} {hosts : Cluster} {s : Session} {event : Event}

/-! ### Events keep a session sound -/

/-- The scene of a session is sound, and every unit that was handed out was launched. -/
structure IsSound (m : Manager) (s : Session) : Prop where
  deadline_eq : s.world.deadline = none
  sound : m.Sound (s.intact = true) s.dropped s.world.scene
  knowsIn : ∀ unit ∈ s.handles, m.KnowsIn s.dropped s.world.scene unit

/-- A session follows another that was sound. -/
structure Continues (m : Manager) (event : Event) (s s' : Session) : Prop where
  isSound : s'.IsSound m
  isTaggedAt : m.IsApart → ∀ role,
    m.IsTaggedAt s.world.scene role → m.IsTaggedAt s'.world.scene role
  changes_states : ∀ role,
    ReflTransGen (event.Changes s'.dropped role) (s.world.states role) (s'.world.states role)

theorem isSound_start (h : m.fabric.IsThere (start hosts).world.scene) :
  (start hosts).IsSound m
  where
    deadline_eq := rfl
    knowsIn := List.forall_mem_nil _
    sound := by
      constructor
      · exact h
      · exact Cluster.id_of_host?
      · intro role hstate
        exact absurd rfl hstate
      · intro role host _
        constructor
        · rintro ⟨⟩
        · rintro _ _ ⟨⟩
        · rintro ⟨⟩
      · rintro role host unit _ ⟨⟩

theorem IsSound.continues_operate (h : s.IsSound m) {op : Operation}
    (hunits : ∀ unit ∈ op.units, unit ∈ s.handles) :
  Continues m (.operate op) s (s.step m (.operate op))
  := by
  have hsub : s.dropped ⊆ s.dropped ++ op.drops m s.world.states :=
    List.subset_append_left _ _
  have hleads := (h.sound.mono id hsub).leads_job
    (fun unit hunit => (h.knowsIn unit (hunits unit hunit)).mono hsub)
    (List.subset_append_right _ _)
  obtain ⟨r, w, hrun, hdeadline, hadvances, hyields⟩ := hleads s.world rfl h.deadline_eq
  have hrun : World.run Cluster.layer (op.job m) s.world = (some r, w) := hrun
  have hstep : s.step m (.operate op) = ⟨w, s.handles ++ handedOut (some r),
      s.dropped ++ op.drops m s.world.states, s.intact && op.isClean (some r)⟩ := by
    simp only [step, hrun]
  rw [hstep]
  constructor
  · constructor
    · exact hdeadline
    · rw [Bool.and_eq_true]
      exact hadvances.sound
    · intro unit hunit
      obtain hold | hnew := List.mem_append.mp hunit
      · exact hadvances.knowsIn unit ((h.knowsIn unit hold).mono hsub)
      · cases r with
        | error e => cases hnew
        | ok units => exact hyields units rfl unit hnew
  · exact hadvances.isTaggedAt
  · exact hadvances.changes_states

theorem IsSound.continues_look (h : s.IsSound m) (role : Role) :
  Continues m (.look role) s (s.step m (.look role))
  where
    isTaggedAt := fun _ _ htagged => htagged
    changes_states := fun _ => .refl
    isSound := by
      constructor
      · exact h.deadline_eq
      · exact h.sound
      · intro unit hunit
        obtain hold | hnew := List.mem_append.mp hunit
        · exact h.knowsIn unit hold
        · exact h.sound.knowsIn (Option.mem_toList.mp hnew)

theorem IsSound.continues_goDown (h : s.IsSound m) (id : HostId) (runs : Nat) :
  Continues m (.goDown id runs) s (s.step m (.goDown id runs))
  := by
  have hhosts : ∀ other, (s.step m (.goDown id runs)).world.scene.hosts other
      = (s.world.scene.hosts other).map fun host =>
        if host.id = id then host.goDownBehind runs else host := by
    intro other
    apply Cluster.host?_map
    intro host
    split_ifs <;> rfl
  have hadvances : m.Advances (s.intact = true) s.dropped (fun _ _ _ => False) s.world.scene
      (s.step m (.goDown id runs)).world.scene := by
    apply h.sound.advances
    constructor
    · intro other hnone
      rw [hhosts, hnone, Option.map_none]
    · intro other host hhost
      refine ⟨_, by rw [hhosts, hhost, Option.map_some], ?_, fun role _ => ?_⟩
      · split_ifs <;> rfl
      · split_ifs
        · exact .goDownBehind runs
        · exact .of_units_eq rfl rfl rfl fun _ htagged => htagged
    · intro _ _
      rfl
  constructor
  · exact ⟨h.deadline_eq, hadvances.sound, fun unit hunit =>
      hadvances.knowsIn unit (h.knowsIn unit hunit)⟩
  · exact hadvances.isTaggedAt
  · exact hadvances.changes_states

/-- An event that only names units that were handed out keeps a session sound. -/
theorem IsSound.continues (h : s.IsSound m) (hunits : ∀ unit ∈ event.units, unit ∈ s.handles) :
  Continues m event s (s.step m event)
  := by
  cases event with
  | operate op => exact h.continues_operate hunits
  | look role => exact h.continues_look role
  | goDown id runs => exact h.continues_goDown id runs

end Session

end Manager

end JoinBench
