import JoinBench.Proofs.Host.Faithful
import JoinBench.Proofs.Lifecycle.Session
import JoinBench.Proofs.Program.Contract
import JoinBench.Proofs.Topology.Placement

/-!
# Managers whose hosts are in the fabric

A manager is hosted where the host of each role of its topology belongs to its fabric.  Behind a
layer that answers faithfully it asks hosts of its fabric only, all the units that it hands out are
on such hosts, and none of its operations fails because a host does not belong to the fabric.
-/

namespace JoinBench

open Program Host

/-- The error for a host that does not belong to the fabric. -/
def Error.IsUnknownHost (e : Error) : Prop :=
  ∃ id, e = .config (.unknownHost id)

theorem Error.IsFrom.not_isUnknownHost {id : HostId} {e : Error} (h : e.IsFrom id) :
  ¬ e.IsUnknownHost
  := by
  rintro ⟨_, rfl⟩
  cases h

/-- The unit in a state is on one of some hosts. -/
def UnitState.IsOn (hosts : List HostId) (state : UnitState) : Prop :=
  ∀ unit, state.unit? = some unit → unit.host ∈ hosts

/-- A job asks some hosts only, has units on these hosts only, and never misses a host. -/
def Fabric.contract (fabric : Fabric) : Contract Action.interface Error where
  asks
    | .ask id _ => id ∈ fabric.hosts
    | .setState _ state => state.IsOn fabric.hosts
    | _ => True
  answers
    | .ask id r, x => r.IsFaithful id x
    | .stateOf _, state => state.IsOn fabric.hosts
    | _, _ => True
  fails e := ¬ e.IsUnknownHost

namespace Fabric

variable {fabric : Fabric} {host : HostId} {α τ : Type} {V : α → Prop}

/-- The units in the states of all roles are on hosts of the fabric. -/
def Holds (fabric : Fabric) (w : World τ) : Prop :=
  ∀ role, (w.states role).IsOn fabric.hosts

theorem isUpheld_contract {layer : Layer τ} (hlayer : layer.IsFaithful) :
  fabric.contract.IsUpheld (World.handler layer) fabric.Holds
  where
    keeps action w hasks hw := by
      cases action with
      | ask | stateOf | log | now | emit => exact hw
      | setState role state =>
          intro other
          simp only [World.handler, World.setState]
          split_ifs
          · exact hasks
          · exact hw other
      | forgetStates => rintro _ _ ⟨⟩
      | pause ms =>
          simp only [World.handler, World.pause]
          split
          · split_ifs <;> exact hw
          · exact hw
    answers action w x w' _ hw h := by
      cases action with
      | ask id r =>
          rw [World.handler, Prod.mk.injEq] at h
          exact hlayer id r w.hosts x _ (Prod.ext h.1 rfl)
      | stateOf role =>
          cases h
          exact hw role
      | setState | forgetStates | log | pause | now | emit => trivial

/-! ### Actions -/

theorem honours_perform (action : Action) (h : fabric.contract.asks action) :
  (Job.perform action).Honours fabric.contract (fabric.contract.answers action)
  := ⟨h, fun _ hx => hx⟩

theorem honours_log (level : Level) (message : String) :
  (Job.log level message).Honours fabric.contract fun _ => True
  := honours_perform _ trivial

theorem honours_stateOf (role : Role) :
  (Job.stateOf role).Honours fabric.contract (·.IsOn fabric.hosts)
  := honours_perform _ trivial

theorem honours_setState (role : Role) {state : UnitState} (h : state.IsOn fabric.hosts) :
  (Job.setState role state).Honours fabric.contract fun _ => True
  := honours_perform _ h

/-- Going on with the answer of a host is going on with its result. -/
theorem honours_ask {r : Request} (hhost : host ∈ fabric.hosts) {f : r.Answer → Job α}
    (h : ∀ result : Except Error r.Value, (∀ e, result = .error e → e.IsFrom host) →
      (∀ value, result = .ok value → r.Yields host value) →
      (f (r.settle result)).Honours fabric.contract V) :
  (Job.perform (.ask host r) >>= f).Honours fabric.contract V
  := by
  apply honours_bind (honours_perform (.ask host r) hhost)
  rintro _ ⟨result, rfl, herror, hvalue⟩
  exact h result herror hvalue

theorem honours_ofExcept {result : Except Error α} (herror : ∀ e, result = .error e → e.IsFrom host)
    (hvalue : ∀ value, result = .ok value → V value) :
  (Program.ofExcept result : Job α).Honours fabric.contract V
  := by
  cases result with
  | error e => exact (herror e rfl).not_isUnknownHost
  | ok value => exact hvalue value rfl

section Requests

variable (h : host ∈ fabric.hosts)
include h

theorem honours_list (label : String) :
  (Job.list host label).Honours fabric.contract fun _ => True
  := honours_ask h fun _ herror _ => honours_ofExcept herror fun _ _ => trivial

theorem honours_launch (spec : LaunchSpec) :
  (Job.launch host spec).Honours fabric.contract (·.host = host)
  := honours_ask h fun _ => honours_ofExcept

theorem honours_wait (unit : UnitHandle) :
  (Job.wait host unit).Honours fabric.contract fun _ => True
  := honours_ask h fun _ herror _ => honours_ofExcept herror fun _ _ => trivial

theorem honours_logs (unit : UnitHandle) (select : LogSelect) :
  (Job.logs host unit select).Honours fabric.contract fun _ => True
  := honours_ask h fun _ herror _ => honours_ofExcept herror fun _ _ => trivial

theorem honours_follow (unit : UnitHandle) :
  (Job.follow host unit).Honours fabric.contract fun _ => True
  := (honours_perform (.ask host (.follow unit)) h).mono fun _ _ => trivial

theorem honours_remove (unitId : String) (force : Bool) :
  (Job.remove host unitId force).Honours fabric.contract fun _ => True
  := honours_ask h fun _ herror _ => honours_ofExcept herror fun _ _ => trivial

theorem honours_tag (source target : ImageRef) :
  (Job.tag host source target).Honours fabric.contract fun _ => True
  := honours_ask h fun _ herror _ => honours_ofExcept herror fun _ _ => trivial

theorem honours_removeImage (image : ImageRef) :
  (Job.removeImage host image).Honours fabric.contract fun _ => True
  := honours_ask h fun _ herror _ => honours_ofExcept herror fun _ _ => trivial

theorem honours_commit (unit : UnitHandle) (target : ImageRef) :
  (Job.commit host unit target).Honours fabric.contract fun _ => True
  := honours_ask h fun _ herror _ => honours_ofExcept herror fun _ _ => trivial

theorem honours_cleanHost (label : String) :
  (cleanHost label host).Honours fabric.contract fun _ => True
  := by
  apply honours_bind (honours_list h label)
  intro units _
  have hunits : (forEach (removeUnit host) units).Honours fabric.contract fun _ => True :=
    honours_forEach fun unit _ =>
      honours_bind (honours_remove h unit.unitId true) fun _ _ => honours_log _ _
  exact honours_bind hunits fun _ _ => honours_pure trivial

theorem honours_host :
  (Program.ofExcept (fabric.host host) : Job HostId).Honours fabric.contract (· = host)
  := by
  rw [Fabric.host, if_pos (List.contains_iff_mem.mpr h)]
  rfl

end Requests

theorem honours_cleanAll (label : String) :
  (fabric.cleanAll label).Honours fabric.contract fun _ => True
  := by
  have hhosts : (all (fabric.hosts.map (cleanHost label))).Honours fabric.contract
      (∀ a ∈ ·, True) := by
    apply honours_all
    intro job hjob
    obtain ⟨host, hhost, rfl⟩ := List.mem_map.mp hjob
    exact honours_cleanHost hhost label
  apply honours_bind hhosts
  intro counts _
  dsimp only
  split_ifs
  · exact honours_bind (honours_log _ _) fun _ _ => honours_pure trivial
  · exact honours_pure trivial

end Fabric

namespace Manager

variable {m : Manager} {role : Role} {unit : UnitHandle} {units : List UnitHandle}

/-- The host of each role of the topology belongs to the fabric. -/
def IsHosted (m : Manager) : Prop :=
  ∀ role ∈ m.topology.roles, ∃ id ∈ m.fabric.hosts, m.topology.hostOf role = .ok id

/-! ### Operations -/

theorem IsHosted.mem_hosts (h : m.IsHosted) {id : HostId}
    (hhost : m.topology.hostOf role = .ok id) :
  id ∈ m.fabric.hosts
  := by
  obtain ⟨id', hid, heq⟩ := h role (Topology.exists_hostOf_iff.mp ⟨id, hhost⟩)
  rw [hhost] at heq
  cases heq
  exact hid

/-- A manager that is hosted finds the host of a role wherever its topology has one. -/
theorem IsHosted.hostFor_eq (h : m.IsHosted) (role : Role) :
  m.hostFor role = m.topology.hostOf role
  := by
  rw [hostFor]
  cases hhost : m.topology.hostOf role with
  | error e => rfl
  | ok id => exact if_pos (List.contains_iff_mem.mpr (h.mem_hosts hhost))

theorem IsHosted.honours_hostFor (h : m.IsHosted) (role : Role) :
  (Program.ofExcept (m.hostFor role) : Job HostId).Honours m.fabric.contract (· ∈ m.fabric.hosts)
  := by
  rw [h.hostFor_eq]
  cases hhost : m.topology.hostOf role with
  | ok id => exact h.mem_hosts hhost
  | error e =>
      -- The error is about the role and not about a host.
      obtain rfl := Topology.hostOf_eq_error hhost
      rintro ⟨_, ⟨⟩⟩

theorem honours_roleOf (m : Manager) (unit : UnitHandle) :
  (Program.ofExcept (m.roleOf unit) : Job Role).Honours m.fabric.contract fun _ => True
  := by
  rw [roleOf]
  split
  · trivial
  · rintro ⟨_, ⟨⟩⟩

theorem honours_render (m : Manager) (flags : UnitFlags) (id : RoleId) :
  (Program.ofExcept (flags.render id) : Job String).Honours m.fabric.contract fun _ => True
  := by
  rw [UnitFlags.render]
  split_ifs
  · rintro ⟨_, ⟨⟩⟩
  · trivial

theorem IsHosted.honours_prepareImage (h : m.IsHosted) (role : Role) :
  (m.prepareImage role).Honours m.fabric.contract fun _ => True
  := by
  apply honours_bind (m.fabric.honours_stateOf role)
  intro state _
  apply honours_check
  · rintro ⟨_, ⟨⟩⟩
  apply honours_bind (h.honours_hostFor role)
  intro host hhost
  apply honours_bind (Fabric.honours_removeImage hhost _)
  intro _ _
  apply honours_bind (Fabric.honours_removeImage hhost _)
  intro _ _
  apply honours_bind (Fabric.honours_tag hhost _ _)
  intro _ _
  apply honours_bind (Fabric.honours_setState role (by rintro _ ⟨⟩))
  intro _ _
  exact Fabric.honours_log _ _

theorem IsHosted.honours_runRole (h : m.IsHosted) (role : Role) (command : String)
    (flags : UnitFlags) :
  (m.runRole role command flags).Honours m.fabric.contract (·.host ∈ m.fabric.hosts)
  := by
  apply honours_bind (m.honours_render flags role.id)
  intro rendered _
  apply honours_bind (h.honours_hostFor role)
  intro host hhost
  apply honours_bind (Fabric.honours_stateOf role)
  intro previous hprevious
  apply honours_check
  · rintro ⟨_, ⟨⟩⟩
  apply honours_bind (Fabric.honours_setState role (by rintro _ ⟨⟩))
  intro _ _
  apply honours_bind (Fabric.honours_log _ _)
  intro _ _
  apply honours_bind (honours_attempt (Fabric.honours_launch hhost _))
  rintro (e | unit) hresult
  · exact honours_bind (Fabric.honours_setState role hprevious) fun _ _ => honours_throw hresult
  · obtain rfl := hresult
    apply honours_bind (Fabric.honours_log _ _)
    intro _ _
    refine honours_bind (Fabric.honours_setState role ?_) fun _ _ => honours_pure hhost
    rintro _ ⟨⟩
    exact hhost

section Units

variable (hunit : unit.host ∈ m.fabric.hosts)
include hunit

theorem honours_wait :
  (m.wait unit).Honours m.fabric.contract fun _ => True
  := by
  apply honours_bind (m.honours_roleOf unit)
  intro role _
  apply honours_bind (Fabric.honours_host hunit)
  rintro _ rfl
  apply honours_bind (Fabric.honours_wait hunit unit)
  intro status _
  apply honours_bind (Fabric.honours_stateOf role)
  intro state _
  split_ifs
  · refine honours_bind (Fabric.honours_setState role ?_) fun _ _ => honours_pure trivial
    rintro _ ⟨⟩
    exact hunit
  · exact honours_pure trivial

theorem honours_logs (select : LogSelect) :
  (m.logs unit select).Honours m.fabric.contract fun _ => True
  := by
  apply honours_bind (Fabric.honours_host hunit)
  rintro _ rfl
  exact Fabric.honours_logs hunit unit select

theorem honours_follow :
  (m.follow unit).Honours m.fabric.contract fun _ => True
  := by
  apply honours_bind (Fabric.honours_host hunit)
  rintro _ rfl
  exact Fabric.honours_follow hunit unit

theorem honours_ensureSuccess :
  (m.ensureSuccess unit).Honours m.fabric.contract fun _ => True
  := by
  apply honours_bind (honours_wait hunit)
  intro status _
  split_ifs
  · apply honours_bind (honours_attempt (honours_logs hunit .both))
    rintro (e | output) _ <;> rintro ⟨_, ⟨⟩⟩
  · exact honours_pure trivial

theorem honours_commitUnit :
  (m.commitUnit unit).Honours m.fabric.contract fun _ => True
  := by
  apply honours_bind (m.honours_roleOf unit)
  intro role _
  apply honours_bind (honours_ensureSuccess hunit)
  intro _ _
  apply honours_bind (Fabric.honours_host hunit)
  rintro _ rfl
  apply honours_bind (Fabric.honours_tag hunit _ _)
  intro _ _
  apply honours_bind (Fabric.honours_commit hunit unit _)
  intro _ _
  apply honours_bind (Fabric.honours_remove hunit _ _)
  intro _ _
  apply honours_bind (Fabric.honours_removeImage hunit _)
  intro _ _
  apply honours_bind (Fabric.honours_setState role (by rintro _ ⟨⟩))
  intro _ _
  exact Fabric.honours_log _ _

end Units

/-- A group of jobs for units that are on hosts of the fabric. -/
theorem honours_all_units {α : Type} {V : α → Prop} {f : UnitHandle → Job α}
    (hunits : ∀ unit ∈ units, unit.host ∈ m.fabric.hosts)
    (h : ∀ unit, unit.host ∈ m.fabric.hosts → (f unit).Honours m.fabric.contract V) :
  (all (units.map f)).Honours m.fabric.contract (∀ a ∈ ·, V a)
  := by
  apply honours_all
  intro job hjob
  obtain ⟨unit, hunit, rfl⟩ := List.mem_map.mp hjob
  exact h unit (hunits unit hunit)

/-- An operation with units on hosts of the fabric hands out such units, and never misses a
host. -/
theorem IsHosted.honours_job (h : m.IsHosted) {op : Operation}
    (hunits : ∀ unit ∈ op.units, unit.host ∈ m.fabric.hosts) :
  (op.job m).Honours m.fabric.contract (∀ unit ∈ ·, unit.host ∈ m.fabric.hosts)
  := by
  have hnothing : ∀ {α : Type} {job : Job α} {V : α → Prop}, job.Honours m.fabric.contract V →
      (do let _ ← job; return [] : Job (List UnitHandle)).Honours m.fabric.contract
        (∀ unit ∈ ·, unit.host ∈ m.fabric.hosts) :=
    fun hjob => honours_bind hjob fun _ _ => honours_pure (List.forall_mem_nil _)
  cases op with
  | cleanAll =>
      refine hnothing (V := fun _ => True) (honours_bind (Fabric.honours_cleanAll m.label) ?_)
      intro removed _
      exact honours_bind (Fabric.honours_perform _ trivial) fun _ _ => honours_pure trivial
  | prepareImages => exact hnothing (honours_forEach fun role _ => h.honours_prepareImage role)
  | runRole role command flags =>
      apply honours_bind (h.honours_runRole role command flags)
      intro unit hunit
      exact honours_pure (List.forall_mem_singleton.mpr hunit)
  | runAll command roles flags =>
      apply honours_all
      intro job hjob
      obtain ⟨role, -, rfl⟩ := List.mem_map.mp hjob
      exact h.honours_runRole role command flags
  | wait unit => exact hnothing (honours_wait (hunits unit (List.mem_singleton_self unit)))
  | waitAll units => exact hnothing (honours_all_units hunits fun _ => honours_wait)
  | ensureSuccess unit =>
      exact hnothing (honours_ensureSuccess (hunits unit (List.mem_singleton_self unit)))
  | commit units =>
      have hcommit := honours_all_units hunits fun _ => honours_commitUnit
      exact hnothing (V := fun _ => True) (honours_bind hcommit fun _ _ => honours_pure trivial)

/-! ### Whatever a manager comes to -/

section Reaching

variable {τ : Type} {layer : Layer τ} {w : World τ}

/-- The surroundings that a manager may come to, with the units that were handed out until then.
Operations may be cut off anywhere, and in between everything but the states of the roles may
change. -/
inductive Reaches (m : Manager) (layer : Layer τ) : World τ → List UnitHandle → Prop where
  | start (hosts : τ) (sinks : Sinks) : Reaches m layer (.start hosts sinks) []
  | cutOff {w w' : World τ} {units : List UnitHandle} {op : Operation}
    {left : Job (List UnitHandle)} (h : Reaches m layer w units) (hunits : op.units ⊆ units)
    (hsteps : Steps (World.handler layer) (op.job m) w left w') : Reaches m layer w' units
  | operate {w w' : World τ} {units new : List UnitHandle} {op : Operation}
    (h : Reaches m layer w units) (hunits : op.units ⊆ units)
    (hsteps : Steps (World.handler layer) (op.job m) w (.done new) w') :
    Reaches m layer w' (units ++ new)
  | look {w : World τ} {units : List UnitHandle} (h : Reaches m layer w units) (role : Role) :
    Reaches m layer w (units ++ (w.states role).unit?.toList)
  | change {w w' : World τ} {units : List UnitHandle} (h : Reaches m layer w units)
    (hstates : w'.states = w.states) : Reaches m layer w' units

/-- However its calls are interleaved, a job does not fail because a host does not belong to the
fabric. -/
def FindsHosts {α : Type} (layer : Layer τ) (w : World τ) (job : Job α) : Prop :=
  ∀ e w', Steps (World.handler layer) job w (.fail e) w' → ¬ e.IsUnknownHost

theorem findsHosts_of_honours {α : Type} {V : α → Prop} {job : Job α} (hlayer : layer.IsFaithful)
    (h : job.Honours m.fabric.contract V) (hw : m.fabric.Holds w) :
  FindsHosts layer w job
  := fun _ _ hsteps => (Steps.honours (Fabric.isUpheld_contract hlayer) hsteps h hw).1

/-- All units that were handed out, and those in the states of the roles, are on hosts of the
fabric. -/
theorem Reaches.holds (h : m.Reaches layer w units) (hm : m.IsHosted)
    (hlayer : layer.IsFaithful) :
  m.fabric.Holds w ∧ ∀ unit ∈ units, unit.host ∈ m.fabric.hosts
  := by
  -- What an operation leaves, also one that is cut off, is left by a job that honours the contract.
  induction h with
  | start hosts sinks =>
      refine ⟨?_, List.forall_mem_nil _⟩
      rintro _ _ ⟨⟩
  | cutOff _ hop hsteps ih =>
      obtain ⟨hw, hunits⟩ := ih
      have hjob := hm.honours_job fun unit hunit => hunits unit (hop hunit)
      exact ⟨(Steps.honours (Fabric.isUpheld_contract hlayer) hsteps hjob hw).2, hunits⟩
  | operate _ hop hsteps ih =>
      obtain ⟨hw, hunits⟩ := ih
      have hjob := hm.honours_job fun unit hunit => hunits unit (hop hunit)
      obtain ⟨hnew, hw'⟩ := Steps.honours (Fabric.isUpheld_contract hlayer) hsteps hjob hw
      exact ⟨hw', List.forall_mem_append.mpr ⟨hunits, hnew⟩⟩
  | @look w _ _ role ih =>
      obtain ⟨hw, hunits⟩ := ih
      refine ⟨hw, List.forall_mem_append.mpr ⟨hunits, ?_⟩⟩
      intro unit hunit
      exact hw role unit (Option.mem_toList.mp hunit)
  | change _ hstates ih =>
      obtain ⟨hw, hunits⟩ := ih
      refine ⟨?_, hunits⟩
      rw [Fabric.Holds, hstates]
      exact hw

/-- Wherever a manager has come to, none of its operations fails because a host does not belong to
the fabric. -/
def NeverMisses (m : Manager) (layer : Layer τ) : Prop :=
  ∀ w units, m.Reaches layer w units →
    (∀ op : Operation, op.units ⊆ units → FindsHosts layer w (op.job m))
      ∧ ∀ unit ∈ units, (∀ select, FindsHosts layer w (m.logs unit select))
        ∧ FindsHosts layer w (m.follow unit)

theorem IsHosted.neverMisses (h : m.IsHosted) (hlayer : layer.IsFaithful) :
  m.NeverMisses layer
  := by
  intro w units hreaches
  obtain ⟨hw, hunits⟩ := hreaches.holds h hlayer
  constructor
  · intro op hop
    exact findsHosts_of_honours hlayer
      (h.honours_job fun unit hunit => hunits unit (hop hunit)) hw
  · intro unit hunit
    have hhost := hunits unit hunit
    exact ⟨fun select => findsHosts_of_honours hlayer (honours_logs hhost select) hw,
      findsHosts_of_honours hlayer (honours_follow hhost) hw⟩

end Reaching

end Manager

end JoinBench
