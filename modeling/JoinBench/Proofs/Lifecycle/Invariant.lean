import JoinBench.Proofs.Environment
import JoinBench.Proofs.Lifecycle.Session

/-!
# What holds between operations

However the calls of a session are ordered, and whether they succeed or not, the state of a role is
backed by its host between them: the images and the unit of which the state tells are there.  From
one call to the next a role only changes its state as the call says.  A unit that has lost its role
to the base image is in the way of a new one, but as long as it is there it can be committed.
-/

namespace JoinBench.Manager

open Host Relation

variable {m : Manager}

/-- A unit of a host is the only one with the name of a role, and carries the label. -/
structure IsUnitOf (m : Manager) (role : Role) (host : Memory) (unit : UnitHandle) (u : KeptUnit) :
    Prop where
  host_eq : unit.host = host.id
  getElem?_units : host.units[unit.unitId]? = some u
  name_eq : u.name = role.id.text
  label_mem : m.label ∈ u.labels
  unitId_eq : ∀ {unitId : String} {u' : KeptUnit}, host.units[unitId]? = some u' →
    u'.name = role.id.text → unitId = unit.unitId

/-- A host holds what the state of a role tells of. -/
structure Backs (m : Manager) (intact : Bool) (role : Role) (state : UnitState) (host : Memory) :
    Prop where
  checkpoint_mem : m.checkpoint role ∈ host.images
  stale_notMem : m.stale role ∉ host.images
  exists_unit : intact = true → ∀ unit, state.unit? = some unit →
    ∃ u, m.IsUnitOf role host unit u ∧ ∀ status, state = .exited unit status →
      u.result.status = status
  name_ne : state = .committed → ∀ {unitId : String} {u : KeptUnit},
    host.units[unitId]? = some u → u.name ≠ role.id.text

/-- A host backs a state that is upheld by it. -/
theorem backs_of_upholds {intact : Bool} {dropped : List UnitHandle} {role : Role}
    {state : UnitState} {host : Memory} (htagged : m.IsTagged role state host)
    (hupholds : Upholds (intact = true) role state host)
    (hknows : ∀ unit, state.unit? = some unit → m.Knows dropped role state host unit)
    (hstate : state ≠ .noImage) :
  m.Backs intact role state host
  where
    checkpoint_mem := htagged.checkpoint_mem hstate
    stale_notMem := htagged.stale_notMem hstate
    exists_unit := by
      intro hintact unit hunit
      have hmem := hupholds.mem_units hintact unit hunit
      have hkept := (hknows unit hunit).isKept (Std.ExtTreeMap.getElem?_eq_some_getElem hmem)
      refine ⟨_, ⟨(hknows unit hunit).host_eq, Std.ExtTreeMap.getElem?_eq_some_getElem hmem,
        hkept.name_eq, hkept.label_mem, hkept.unitId_eq⟩, ?_⟩
      rintro status rfl
      obtain ⟨⟨⟩⟩ | hexited | ⟨⟨⟩, -⟩ := hkept.state_eq
      cases hexited
      rfl
    name_ne := by
      intro hcommitted unitId u hu hname
      have hfree := hupholds.hasName_eq hcommitted
      rw [Bool.eq_false_iff, Ne, Memory.hasName_iff] at hfree
      exact hfree ⟨unitId, u, hu, hname⟩

namespace Session

variable {hosts : Cluster} {s : Session} {events later : List Event} {event : Event}

/-! ### Several events -/

theorem run_append (m : Manager) (s : Session) (events later : List Event) :
  s.run m (events ++ later) = (s.run m events).run m later
  := List.foldl_append

theorem admits_append :
  s.Admits m (events ++ later) ↔ s.Admits m events ∧ (s.run m events).Admits m later
  := by
  induction events generalizing s with
  | nil => simp [Admits, run]
  | cons event rest ih =>
      rw [List.cons_append, Admits, Admits, ih, and_assoc]
      rfl

/-- Whatever happens in a session, it stays sound and the tags of its roles stay in place. -/
theorem IsSound.run (h : s.IsSound m) (hadmits : s.Admits m events) :
  (s.run m events).IsSound m
    ∧ (m.IsApart → m.IsTaggedIn s.world.scene → m.IsTaggedIn (s.run m events).world.scene)
  := by
  induction events generalizing s with
  | nil => exact ⟨h, fun _ htagged => htagged⟩
  | cons event rest ih =>
      obtain ⟨hunits, hrest⟩ := hadmits
      have hfirst := h.continues hunits
      obtain ⟨hsound, htagged⟩ := ih hfirst.isSound hrest
      refine ⟨hsound, ?_⟩
      intro hapart hbefore
      exact htagged hapart fun role => hfirst.isTaggedAt hapart role (hbefore role)

/-! ### States are backed by hosts -/

/-- No launch is under way, and a role that has an image is placed on a host that backs its
state. -/
structure IsBacked (m : Manager) (s : Session) (role : Role) : Prop where
  ne_launching : s.world.states role ≠ .launching
  exists_host : s.world.states role ≠ .noImage →
    ∃ host, m.At s.world.scene role host ∧ m.Backs s.intact role (s.world.states role) host

/-- In a session over hosts that hold the base image, between any two events the state of every
role is backed by its host. -/
theorem isBacked_run (hthere : m.fabric.IsThere (start hosts).world.scene)
    (hbase : ∀ role host, m.At (start hosts).world.scene role host →
      m.image.base ∈ host.images)
    (hapart : m.IsApart) (hadmits : (start hosts).Admits m events) (role : Role) :
  ((start hosts).run m events).IsBacked m role
  := by
  have htagged : m.IsTaggedIn (start hosts).world.scene :=
    fun role host hat => ⟨hbase role host hat, fun hne => absurd rfl hne, fun hne => absurd rfl hne⟩
  obtain ⟨hsound, htags⟩ := (isSound_start hthere).run hadmits
  constructor
  · exact hsound.sound.ne_launching role
  · intro hstate
    obtain ⟨host, hat⟩ := hsound.sound.exists_at hstate
    refine ⟨host, hat, ?_⟩
    exact backs_of_upholds (htags hapart htagged role host hat) (hsound.sound.upholds hat)
      (fun _ => hsound.sound.knows hat) hstate

/-- All roles with one source, on one machine. -/
def lone : Manager where
  topology := ⟨[.localhost], .localhost, .localhost⟩
  fabric := ⟨[.localhost]⟩
  image := {}
  label := "mppj-exp"
  shell := ["sh", "-c"]

/-- A machine with nothing but the base image, on which all units succeed. -/
def loneHosts : Cluster :=
  [(Memory.empty .localhost fun _ _ => {}).addImage lone.image.base]

/-- The first unit of the helper, where it is launched first. -/
def loneHelper : UnitHandle :=
  ⟨.localhost, "localhost-unit-2", Role.helper.id⟩

theorem isThere_loneHosts :
  lone.fabric.IsThere (start loneHosts).world.scene
  := by
  intro id hid
  obtain rfl := List.mem_singleton.mp hid
  exact ⟨_, rfl⟩

theorem base_mem_loneHosts (role : Role) (host : Memory)
    (hat : lone.At (start loneHosts).world.scene role host) :
  lone.image.base ∈ host.images
  := by
  have hid := mem_hosts_of_hostFor hat.hostFor_eq
  have hhosts := hat.hosts_eq
  rw [List.mem_singleton.mp hid] at hhosts
  obtain rfl := Option.some_inj.mp hhosts
  exact Std.ExtTreeMap.mem_insert_self

/-- A helper that has exited, on a machine that has gone down before the receiver could start. -/
theorem isBacked_run_exited :
  ((start loneHosts).run lone [.operate .prepareImages, .operate (.runRole .helper "serve" .none),
    .goDown .localhost 1, .operate (.runRole .receiver "receive" .none),
    .operate (.wait loneHelper)]).IsBacked lone .helper
  := isBacked_run isThere_loneHosts base_mem_loneHosts (isApart_of_image Environment.isApart_usual)
    (by decide +kernel) .helper

/-! ### States only change as events say -/

/-- From one event of a session to the next every role only makes the changes of that event. -/
theorem changes_run (hthere : m.fabric.IsThere (start hosts).world.scene)
    (hadmits : (start hosts).Admits m (events ++ [event])) (role : Role) :
  ReflTransGen (event.Changes ((start hosts).run m (events ++ [event])).dropped role)
    (((start hosts).run m events).world.states role)
    (((start hosts).run m (events ++ [event])).world.states role)
  := by
  obtain ⟨hbefore, hunits, -⟩ := admits_append.mp hadmits
  obtain ⟨hsound, -⟩ := (isSound_start hthere).run hbefore
  rw [run_append]
  exact (hsound.continues hunits).changes_states role

/-- The helper is put back to the base image while its unit is still there. -/
def putBack : List Event :=
  [.operate .prepareImages, .operate (.runRole .helper "serve" .none), .operate (.wait loneHelper),
    .operate .prepareImages]

/-- Committing the unit that the helper had before it was put back. -/
def recommit : Event :=
  .operate (.commit [loneHelper])

theorem changes_run_recommit :
  ReflTransGen
    (recommit.Changes ((start loneHosts).run lone (putBack ++ [recommit])).dropped .helper)
    (((start loneHosts).run lone putBack).world.states .helper)
    (((start loneHosts).run lone (putBack ++ [recommit])).world.states .helper)
  := changes_run isThere_loneHosts (by decide +kernel) .helper

/-- If no unit is taken for one that has lost its role, no change leads from the base image to the
checkpoint that is made of the old unit. -/
theorem not_changes_recommit :
  (start loneHosts).Admits lone (putBack ++ [recommit])
    ∧ ¬ ReflTransGen (recommit.Changes [] .helper)
      (((start loneHosts).run lone putBack).world.states .helper)
      (((start loneHosts).run lone (putBack ++ [recommit])).world.states .helper)
  := by
  have hbefore : ((start loneHosts).run lone putBack).world.states .helper = .baseImage := by
    decide +kernel
  have hbehind : ((start loneHosts).run lone (putBack ++ [recommit])).world.states .helper
      = .committed := by
    decide +kernel
  refine ⟨by decide +kernel, ?_⟩
  rw [hbefore, hbehind]
  intro hchanges
  obtain hsame | ⟨state, hfirst, -⟩ := hchanges.cases_head
  · cases hsame
  · cases hfirst with
    | launch hrole => cases hrole
    | recommit _ hdropped => cases hdropped
    | reset hop => cases hop
    | prepare hop => cases hop

end Session

end JoinBench.Manager
