import JoinBench.Proofs.Topology.Roles
import Mathlib.Algebra.BigOperators.Group.Finset.Basic
import Mathlib.Data.Int.CardIntervalMod

/-!
# Where roles are placed

A topology that is resolved has a host for each of its roles and for no other role, and knows its
roles by their names.  The sources are placed in turn over the positions of a pool: a source keeps
its host when further sources are added, and no position receives two sources more than another.
The tags of the checkpoints of all roles, the current ones and the previous ones, are told apart
whatever the topology.
-/

namespace JoinBench

namespace Topology

variable {t : Topology} {role : Role} {id : RoleId} {parties : Nat} {pool : List HostId}
  {helperHost receiverHost : HostId}

/-! ### Roles and their hosts -/

theorem mem_roles_iff :
  role ∈ t.roles
    ↔ (∃ i < t.sourceHosts.length, role = .source i) ∨ role = .helper ∨ role = .receiver
  := by
  simp [roles, sources, eq_comm]

theorem length_roles (t : Topology) :
  t.roles.length = t.sourceHosts.length + 2
  := by
  simp [roles, sources]

theorem role?_eq_some_iff :
  t.role? id = some role ↔ role ∈ t.roles ∧ role.id = id
  := by
  constructor
  · intro hfind
    exact ⟨List.mem_of_find?_eq_some hfind, by simpa using List.find?_some hfind⟩
  · rintro ⟨hmem, rfl⟩
    exact role?_id hmem

theorem exists_hostOf_iff :
  (∃ host, t.hostOf role = .ok host) ↔ role ∈ t.roles
  := by
  constructor
  · rintro ⟨host, hhost⟩
    cases role with
    | helper => exact helper_mem_roles
    | receiver => exact receiver_mem_roles
    | source i =>
        rw [hostOf] at hhost
        split at hhost
        · next hget =>
            exact mem_roles_iff.mpr (.inl ⟨i, (List.getElem?_eq_some_iff.mp hget).1, rfl⟩)
        · cases hhost
  · exact exists_hostOf_of_mem

/-- A role without a host is the one that the error names. -/
theorem hostOf_eq_error {e : Error} (h : t.hostOf role = .error e) :
  e = .config (.roleNotPlaced role.id)
  := by
  cases role with
  | helper | receiver => cases h
  | source i =>
      rw [hostOf] at h
      split at h
      · cases h
      · cases h
        rfl

/-! ### Placing sources in turn -/

theorem getElem?_placeSources (h : pool ≠ []) {i : Nat} (hi : i < parties) :
  (placeSources parties pool h)[i]? = pool[i % pool.length]?
  := by
  have hlt := Nat.mod_lt i (List.length_pos_iff.mpr h)
  rw [placeSources, List.getElem?_map, List.getElem?_range hi, List.getElem?_eq_getElem hlt]
  rfl

/-- The number of sources that a position receives, of so many that are placed in turn. -/
def load (parties positions position : Nat) : Nat :=
  Nat.count (· % positions = position) parties

theorem load_eq {positions position : Nat} (h : position < positions) (parties : Nat) :
  load parties positions position
    = parties / positions + if position < parties % positions then 1 else 0
  := by
  have hcount := Nat.count_modEq_card parties (Nat.zero_lt_of_lt h) position
  simp only [Nat.ModEq, Nat.mod_eq_of_lt h] at hcount
  exact hcount

/-- No position receives two sources more than another. -/
theorem load_le {positions position other : Nat} (h : position < positions)
    (hother : other < positions) (parties : Nat) :
  load parties positions position ≤ load parties positions other + 1
  := by
  rw [load_eq h, load_eq hother]
  split_ifs <;> omega

/-- A host receives the sources of all the positions at which it stands in the pool. -/
theorem count_placeSources (h : pool ≠ []) (host : HostId) :
  (placeSources parties pool h).count host
    = ∑ position ∈ (Finset.range pool.length).filter (pool[·]? = some host),
      load parties pool.length position
  := by
  have hpos := List.length_pos_iff.mpr h
  have hcount : (placeSources parties pool h).count host
      = ((Finset.range parties).filter fun i => pool[i % pool.length]? = some host).card := by
    rw [← Nat.count_eq_card_filter_range, Nat.count, placeSources, List.count, List.countP_map]
    apply List.countP_congr
    intro i _
    have hlt := Nat.mod_lt i hpos
    simp [List.getElem?_eq_getElem hlt]
  have hmaps : ∀ i ∈ (Finset.range parties).filter fun i => pool[i % pool.length]? = some host,
      i % pool.length ∈ (Finset.range pool.length).filter (pool[·]? = some host) := by
    intro i hi
    simp only [Finset.mem_filter, Finset.mem_range] at hi ⊢
    exact ⟨Nat.mod_lt i hpos, hi.2⟩
  rw [hcount, Finset.card_eq_sum_card_fiberwise hmaps]
  apply Finset.sum_congr rfl
  intro position hposition
  rw [load, Nat.count_eq_card_filter_range, Finset.filter_filter]
  congr 1
  apply Finset.filter_congr
  intro i _
  constructor
  · exact And.right
  · rintro rfl
    exact ⟨(Finset.mem_filter.mp hposition).2, rfl⟩

/-! ### Topologies that are resolved -/

/-- A topology with so many sources, which are placed in turn over a pool. -/
structure Places (t : Topology) (parties : Nat) (pool : List HostId)
    (helperHost receiverHost : HostId) : Prop where
  mem_roles_iff : ∀ role, role ∈ t.roles
    ↔ (∃ i < parties, role = .source i) ∨ role = .helper ∨ role = .receiver
  length_roles : t.roles.length = parties + 2
  nodup_roles : t.roles.Nodup
  role?_eq_some_iff : ∀ id role, t.role? id = some role ↔ role ∈ t.roles ∧ role.id = id
  exists_hostOf_iff : ∀ role, (∃ host, t.hostOf role = .ok host) ↔ role ∈ t.roles
  hostOf_source : ∀ i < parties, ∃ host,
    pool[i % pool.length]? = some host ∧ t.hostOf (.source i) = .ok host
  hostOf_helper : t.hostOf .helper = .ok helperHost
  hostOf_receiver : t.hostOf .receiver = .ok receiverHost
  count_sourceHosts : ∀ host, t.sourceHosts.count host
    = ∑ position ∈ (Finset.range pool.length).filter (pool[·]? = some host),
      load parties pool.length position
  load_le : ∀ position < pool.length, ∀ other < pool.length,
    load parties pool.length position ≤ load parties pool.length other + 1

/-- Where there are a host and a source, a topology can be resolved. -/
theorem resolve_eq_ok (hparties : 1 ≤ parties) (h : pool ≠ []) :
  resolve parties pool helperHost receiverHost
    = .ok ⟨placeSources parties pool h, helperHost, receiverHost⟩
  := by
  rw [resolve, dif_neg h, if_neg (Nat.one_le_iff_ne_zero.mp hparties)]

theorem places_resolved (h : pool ≠ []) (parties : Nat) (helperHost receiverHost : HostId) :
  Places ⟨placeSources parties pool h, helperHost, receiverHost⟩ parties pool helperHost
    receiverHost
  where
    mem_roles_iff role := by
      rw [Topology.mem_roles_iff, placeSources, List.length_map, List.length_range]
    length_roles := by
      rw [Topology.length_roles, placeSources, List.length_map, List.length_range]
    nodup_roles := Topology.nodup_roles _
    role?_eq_some_iff _ _ := Topology.role?_eq_some_iff
    exists_hostOf_iff _ := Topology.exists_hostOf_iff
    hostOf_source i hi := by
      have hlt := Nat.mod_lt i (List.length_pos_iff.mpr h)
      have hget := getElem?_placeSources h hi
      rw [List.getElem?_eq_getElem hlt] at hget ⊢
      exact ⟨_, rfl, by simp only [hostOf, hget]⟩
    hostOf_helper := rfl
    hostOf_receiver := rfl
    count_sourceHosts := count_placeSources h
    load_le _ hposition _ hother := Topology.load_le hposition hother parties

end Topology

/-- The tag of the checkpoint of a role, the current one or the previous one. -/
def Manager.tagOf (m : Manager) (role : Role) (previous : Bool) : String :=
  (if previous then m.stale role else m.checkpoint role).tag

theorem Manager.tagOf_inj {m m' : Manager} {role other : Role} {previous previous' : Bool} :
  m.tagOf role previous = m'.tagOf other previous' ↔ role = other ∧ previous = previous'
  := by
  cases previous <;> cases previous'
  · simp [tagOf, checkpoint, Role.text_id_inj]
  · simpa [tagOf, checkpoint, stale, Role.staleTag] using Role.text_id_ne_staleTag role other
  · simpa [tagOf, checkpoint, stale, Role.staleTag] using
      (Role.text_id_ne_staleTag other role).symm
  · simp [tagOf, stale, Role.text_id_inj]

namespace Topology

/-- Where there are a host and a source, a topology can be resolved.  It has its roles and their
hosts, and places the sources in turn.  The tags of all roles of whatever topologies are told
apart. -/
theorem exists_places {parties : Nat} (hparties : 1 ≤ parties) {pool : List HostId} (h : pool ≠ [])
    (helperHost receiverHost : HostId) :
  (∃ t, resolve parties pool helperHost receiverHost = .ok t
    ∧ t.Places parties pool helperHost receiverHost)
  ∧ ∀ (m m' : Manager) (role other : Role) (previous previous' : Bool),
    m.tagOf role previous = m'.tagOf other previous' ↔ role = other ∧ previous = previous'
  := by
  constructor
  · exact ⟨_, resolve_eq_ok hparties h, places_resolved h parties helperHost receiverHost⟩
  · intro _ _ _ _ _ _
    exact Manager.tagOf_inj

/-- Five sources over a pool that names one host twice. -/
theorem exists_places_repeated :
  ∃ t, resolve 5 [⟨"a"⟩, ⟨"b"⟩, ⟨"a"⟩] ⟨"b"⟩ ⟨"c"⟩ = .ok t
    ∧ t.Places 5 [⟨"a"⟩, ⟨"b"⟩, ⟨"a"⟩] ⟨"b"⟩ ⟨"c"⟩
    ∧ t.sourceHosts = [⟨"a"⟩, ⟨"b"⟩, ⟨"a"⟩, ⟨"a"⟩, ⟨"b"⟩]
  := by
  obtain ⟨⟨t, hresolve, hplaces⟩, -⟩ := exists_places (show 1 ≤ 5 by decide)
    (show ([⟨"a"⟩, ⟨"b"⟩, ⟨"a"⟩] : List HostId) ≠ [] by decide) ⟨"b"⟩ ⟨"c"⟩
  refine ⟨t, hresolve, hplaces, ?_⟩
  cases hresolve
  decide

end Topology

end JoinBench
