import JoinBench.Proofs.Program.Calls
import JoinBench.Proofs.Topology.Roles

/-!
# What operations do

The operations of a manager keep to few kinds of actions.  Those that tend units list, watch and
remove them; the others also launch units and move the tags of the roles.  Every request goes to a
host of the fabric, and no operation writes a record.  What holds of these actions holds of every
operation, however its requests are answered.
-/

namespace JoinBench

open Host

/-- The action is neither a request nor the writing of a record. -/
def Action.IsOwn : Action → Prop
  | ask _ _ => False
  | emit _ => False
  | _ => True

namespace Manager

/-- The actions of operations that tend units. -/
inductive Tends (m : Manager) : Action → Prop where
  | own {action : Action} (h : action.IsOwn) : Tends m action
  | list {id : HostId} (h : id ∈ m.fabric.hosts) : Tends m (.ask id (.list m.label))
  | wait {id : HostId} (h : id ∈ m.fabric.hosts) (unit : UnitHandle) :
    Tends m (.ask id (.wait unit))
  | logs {id : HostId} (h : id ∈ m.fabric.hosts) (unit : UnitHandle) (select : LogSelect) :
    Tends m (.ask id (.logs unit select))
  | follow {id : HostId} (h : id ∈ m.fabric.hosts) (unit : UnitHandle) :
    Tends m (.ask id (.follow unit))
  | remove {id : HostId} (h : id ∈ m.fabric.hosts) (unitId : String) (force : Bool) :
    Tends m (.ask id (.remove unitId force))

/-- The actions of all operations. -/
inductive Works (m : Manager) : Action → Prop where
  | tends {action : Action} (h : m.Tends action) : Works m action
  | launch {id : HostId} (h : id ∈ m.fabric.hosts) (role : Role) (commandLine : String) :
    Works m (.ask id (.launch (m.launchSpec role commandLine)))
  | tagBase {id : HostId} (h : id ∈ m.fabric.hosts) (role : Role) :
    Works m (.ask id (.tag m.image.base (m.checkpoint role)))
  | tagStale {id : HostId} (h : id ∈ m.fabric.hosts) (role : Role) :
    Works m (.ask id (.tag (m.checkpoint role) (m.stale role)))
  | removeCheckpoint {id : HostId} (h : id ∈ m.fabric.hosts) (role : Role) :
    Works m (.ask id (.removeImage (m.checkpoint role)))
  | removeStale {id : HostId} (h : id ∈ m.fabric.hosts) (role : Role) :
    Works m (.ask id (.removeImage (m.stale role)))
  | commit {id : HostId} (h : id ∈ m.fabric.hosts) (unit : UnitHandle) (role : Role) :
    Works m (.ask id (.commit unit (m.checkpoint role)))

end Manager

namespace Program

variable {P : Action → Prop} {α : Type}

/-! ### Single actions -/

theorem makes_perform {action : Action} (h : P action) :
  (Job.perform action).Makes P
  := ⟨h, fun _ => trivial⟩

/-- A request, and then what follows from its answer. -/
theorem makes_ask {id : HostId} {request : Request} (h : P (.ask id request))
    {f : request.Answer → Except Error α} :
  (Job.perform (.ask id request) >>= fun x => ofExcept (f x) : Job α).Makes P
  := makes_bind (makes_perform h) fun _ => makes_ofExcept _

end Program

open Program

/-- Cleaning a fabric lists units, removes some by force and writes to the log. -/
theorem Fabric.makes_cleanAll {P : Action → Prop} {fabric : Fabric} {label : String}
    (hlog : ∀ line, P (.log line)) (hlist : ∀ id ∈ fabric.hosts, P (.ask id (.list label)))
    (hremove : ∀ id ∈ fabric.hosts, ∀ unitId, P (.ask id (.remove unitId true))) :
  (fabric.cleanAll label).Makes P
  := by
  apply makes_bind
  · apply makes_all
    intro job hjob
    obtain ⟨id, hid, rfl⟩ := List.mem_map.mp hjob
    apply makes_bind
    · exact makes_ask (hlist id hid)
    intro units
    apply makes_bind
    · apply makes_forEach
      intro unit
      apply makes_bind
      · exact makes_ask (hremove id hid unit.unitId)
      · intro _
        exact makes_perform (hlog _)
    · intro _
      apply makes_pure
  · intro counts
    simp only
    split_ifs
    · apply makes_bind
      · exact makes_perform (hlog _)
      · intro _
        apply makes_pure
    · apply makes_pure

namespace Manager

variable (m : Manager)

theorem tends_log (level : Level) (message : String) :
  (Job.log level message).Makes m.Tends
  := makes_perform (.own trivial)

theorem works_log (level : Level) (message : String) :
  (Job.log level message).Makes m.Works
  := makes_perform (.tends (.own trivial))

theorem works_setState (role : Role) (state : UnitState) :
  (Job.setState role state).Makes m.Works
  := makes_perform (.tends (.own trivial))

theorem works_of_tends {α : Type} {job : Job α} (h : job.Makes m.Tends) :
  job.Makes m.Works
  := h.mono fun _ => .tends

/-! ### Tending units -/

theorem mem_hosts_of_fabric_host {id other : HostId} (h : m.fabric.host id = .ok other) :
  other ∈ m.fabric.hosts
  := by
  rw [Fabric.host] at h
  split_ifs at h with hmem
  cases h
  exact List.contains_iff_mem.mp hmem

theorem tends_cleanAll :
  m.cleanAll.Makes m.Tends
  := by
  apply makes_bind
  · apply Fabric.makes_cleanAll
    · exact fun line => .own trivial
    · exact fun id hid => .list hid
    · exact fun id hid unitId => .remove hid unitId true
  · intro removed
    apply makes_bind
    · exact makes_perform (.own trivial)
    · intro _
      apply makes_pure

theorem tends_wait (unit : UnitHandle) :
  (m.wait unit).Makes m.Tends
  := by
  apply makes_bind
  · apply makes_ofExcept
  intro role
  apply makes_bind_ofExcept
  intro host hhost
  apply makes_bind
  · exact makes_ask (.wait (m.mem_hosts_of_fabric_host hhost) unit)
  intro status
  apply makes_bind
  · exact makes_perform (.own trivial)
  intro state
  simp only
  split_ifs
  · apply makes_bind
    · exact makes_perform (.own trivial)
    · intro _
      apply makes_pure
  · apply makes_pure

theorem tends_logs (unit : UnitHandle) (select : LogSelect) :
  (m.logs unit select).Makes m.Tends
  := by
  apply makes_bind_ofExcept
  intro host hhost
  exact makes_ask (.logs (m.mem_hosts_of_fabric_host hhost) unit select)

theorem tends_follow (unit : UnitHandle) :
  (m.follow unit).Makes m.Tends
  := by
  apply makes_bind_ofExcept
  intro host hhost
  exact makes_perform (.follow (m.mem_hosts_of_fabric_host hhost) unit)

theorem tends_ensureSuccess (unit : UnitHandle) :
  (m.ensureSuccess unit).Makes m.Tends
  := by
  apply makes_bind
  · apply m.tends_wait
  intro status
  split_ifs
  · apply makes_bind
    · apply makes_attempt
      apply m.tends_logs
    · intro output
      cases output with
      | ok text => apply makes_throw
      | error e => apply makes_throw
  · apply makes_pure

/-! ### Launching and committing units -/

theorem works_runRole (role : Role) (command : String) (flags : UnitFlags) :
  (m.runRole role command flags).Makes m.Works
  := by
  apply makes_bind
  · apply makes_ofExcept
  intro rendered
  apply makes_bind_ofExcept
  intro host hhost
  apply makes_bind
  · exact makes_perform (.tends (.own trivial))
  intro previous
  apply makes_check
  apply makes_bind
  · apply works_setState
  intro _
  apply makes_bind
  · apply works_log
  intro _
  apply makes_bind
  · apply makes_attempt
    exact makes_ask (.launch (mem_hosts_of_hostFor hhost) role _)
  intro launched
  cases launched with
  | ok unit =>
      apply makes_bind
      · apply works_log
      intro _
      apply makes_bind
      · apply works_setState
      · intro _
        apply makes_pure
  | error e =>
      apply makes_bind
      · apply works_setState
      · intro _
        apply makes_throw

theorem works_runAll (command : String) (roles : List Role) (flags : UnitFlags) :
  (m.runAll command roles flags).Makes m.Works
  := by
  apply makes_all
  intro job hjob
  obtain ⟨role, -, rfl⟩ := List.mem_map.mp hjob
  apply m.works_runRole

/-- Putting the roles back moves their tags, and makes no other requests. -/
theorem makes_prepareImages {P : Action → Prop} (hown : ∀ {action}, action.IsOwn → P action)
    (hcheckpoint : ∀ {id}, id ∈ m.fabric.hosts → ∀ role,
      P (.ask id (.removeImage (m.checkpoint role))))
    (hstale : ∀ {id}, id ∈ m.fabric.hosts → ∀ role, P (.ask id (.removeImage (m.stale role))))
    (hbase : ∀ {id}, id ∈ m.fabric.hosts → ∀ role,
      P (.ask id (.tag m.image.base (m.checkpoint role)))) :
  m.prepareImages.Makes P
  := by
  apply makes_forEach
  intro role
  apply makes_bind
  · exact makes_perform (hown trivial)
  intro state
  apply makes_check
  apply makes_bind_ofExcept
  intro host hhost
  have hid := mem_hosts_of_hostFor hhost
  apply makes_bind
  · exact makes_ask (hcheckpoint hid role)
  intro _
  apply makes_bind
  · exact makes_ask (hstale hid role)
  intro _
  apply makes_bind
  · exact makes_ask (hbase hid role)
  intro _
  apply makes_bind
  · exact makes_perform (hown trivial)
  · intro _
    exact makes_perform (hown trivial)

theorem works_prepareImages :
  m.prepareImages.Makes m.Works
  := by
  apply makes_prepareImages
  · exact fun h => .tends (.own h)
  · exact fun hid role => .removeCheckpoint hid role
  · exact fun hid role => .removeStale hid role
  · exact fun hid role => .tagBase hid role

theorem works_commit (units : List UnitHandle) :
  (m.commit units).Makes m.Works
  := by
  apply makes_bind
  · apply makes_all
    intro job hjob
    obtain ⟨unit, -, rfl⟩ := List.mem_map.mp hjob
    apply makes_bind
    · apply makes_ofExcept
    intro role
    apply makes_bind
    · apply works_of_tends
      apply m.tends_ensureSuccess
    intro _
    apply makes_bind_ofExcept
    intro host hhost
    have hid := m.mem_hosts_of_fabric_host hhost
    apply makes_bind
    · exact makes_ask (.tagStale hid role)
    intro _
    apply makes_bind
    · exact makes_ask (.commit hid unit role)
    intro _
    apply makes_bind
    · exact makes_ask (.tends (.remove hid unit.unitId false))
    intro _
    apply makes_bind
    · exact makes_ask (.removeStale hid role)
    intro _
    apply makes_bind
    · apply works_setState
    · intro _
      apply works_log
  · intro all
    apply makes_pure

end Manager

end JoinBench
