import JoinBench.Proofs.Topology.Names
import Mathlib.Data.List.Nodup

/-!
# The roles of a topology

A topology has each of its roles once, has a host for exactly these, and finds them by their
names.
-/

namespace JoinBench

namespace Topology

variable {t : Topology} {role : Role}

theorem mem_roles_of_mem_sources (h : role ∈ t.sources) :
  role ∈ t.roles
  := List.mem_append_left _ h

theorem helper_mem_roles :
  .helper ∈ t.roles
  := by
  simp [roles]

theorem receiver_mem_roles :
  .receiver ∈ t.roles
  := by
  simp [roles]

theorem nodup_sources (t : Topology) :
  t.sources.Nodup
  := by
  apply List.Nodup.map _ List.nodup_range
  intro i j h
  cases h
  rfl

theorem helper_notMem_sources :
  .helper ∉ t.sources
  := by
  simp [sources]

theorem receiver_notMem_sources :
  .receiver ∉ t.sources
  := by
  simp [sources]

theorem nodup_roles (t : Topology) :
  t.roles.Nodup
  := by
  apply List.Nodup.append t.nodup_sources (by decide)
  intro role hsource hrest
  rw [List.mem_cons, List.mem_singleton] at hrest
  obtain rfl | rfl := hrest
  · apply helper_notMem_sources hsource
  · apply receiver_notMem_sources hsource

theorem exists_hostOf_of_mem (h : role ∈ t.roles) :
  ∃ id, t.hostOf role = .ok id
  := by
  cases role with
  | helper => exact ⟨t.helperHost, rfl⟩
  | receiver => exact ⟨t.receiverHost, rfl⟩
  | source i =>
      have hi : i < t.sourceHosts.length := by
        simpa [roles, sources] using h
      use t.sourceHosts[i]
      simp only [hostOf, List.getElem?_eq_getElem hi]

theorem role?_id (h : role ∈ t.roles) :
  t.role? role.id = some role
  := by
  rw [role?]
  cases hfind : t.roles.find? fun other => other.id = role.id with
  | none =>
      have hno := List.find?_eq_none.mp hfind role h
      simp at hno
  | some other =>
      have hid : other.id = role.id := by
        simpa using List.find?_some hfind
      rw [Role.id_injective hid]

end Topology

namespace Manager

variable {m : Manager} {role : Role} {id : HostId}

theorem roleOf_eq_ok {unit : UnitHandle} (hrole : role ∈ m.topology.roles)
    (hunit : unit.role = role.id) :
  m.roleOf unit = .ok role
  := by
  rw [roleOf, hunit, Topology.role?_id hrole]

theorem role_eq_of_roleOf {unit : UnitHandle} (h : m.roleOf unit = .ok role) :
  unit.role = role.id
  := by
  rw [roleOf] at h
  split at h
  · next hfind =>
      cases h
      have hid : role.id = unit.role := by
        simpa using List.find?_some hfind
      exact hid.symm
  · cases h

theorem fabric_host_eq_ok (h : id ∈ m.fabric.hosts) :
  m.fabric.host id = .ok id
  := by
  rw [Fabric.host, if_pos (List.contains_iff_mem.mpr h)]

theorem mem_hosts_of_hostFor (h : m.hostFor role = .ok id) :
  id ∈ m.fabric.hosts
  := by
  rw [hostFor] at h
  cases hhost : m.topology.hostOf role with
  | error e =>
      rw [hhost] at h
      cases h
  | ok other =>
      rw [hhost] at h
      have h : m.fabric.host other = .ok id := h
      rw [Fabric.host] at h
      split_ifs at h with hmem
      cases h
      exact List.contains_iff_mem.mp hmem

/-- Only the roles of the topology have a host. -/
theorem mem_roles_of_hostFor (h : m.hostFor role = .ok id) :
  role ∈ m.topology.roles
  := by
  cases role with
  | helper => exact Topology.helper_mem_roles
  | receiver => exact Topology.receiver_mem_roles
  | source i =>
      apply Topology.mem_roles_of_mem_sources
      rw [hostFor, Topology.hostOf] at h
      cases hhost : m.topology.sourceHosts[i]? with
      | none =>
          rw [hhost] at h
          cases h
      | some host =>
          obtain ⟨hi, -⟩ := List.getElem?_eq_some_iff.mp hhost
          simpa [Topology.sources] using hi

theorem checkpoint_inj {other : Role} :
  m.checkpoint role = m.checkpoint other ↔ role = other
  := by
  rw [checkpoint, checkpoint, ImageRef.mk.injEq, Role.text_id_inj]
  simp

theorem stale_inj {other : Role} :
  m.stale role = m.stale other ↔ role = other
  := by
  rw [stale, stale, ImageRef.mk.injEq, String.append_left_inj, Role.text_id_inj]
  simp

theorem stale_ne_checkpoint (m : Manager) (role other : Role) :
  m.stale role ≠ m.checkpoint other
  := by
  intro h
  apply Role.text_id_ne_staleTag other role
  rw [stale, checkpoint, ImageRef.mk.injEq] at h
  exact h.2.symm

/-- The base image is told apart from the checkpoints and the stale images of all roles. -/
def IsApart (m : Manager) : Prop :=
  ∀ role ∈ m.topology.roles, m.image.IsApartFrom role

theorem isApart_of_image (h : m.image.IsApart) :
  m.IsApart
  := fun role _ => h role

theorem checkpoint_ne_base (h : m.image.IsApartFrom role) :
  m.checkpoint role ≠ m.image.base
  := by
  intro heq
  apply h.1
  rw [checkpoint, ImageSettings.base, ImageRef.mk.injEq] at heq
  exact heq.2.symm

theorem stale_ne_base (h : m.image.IsApartFrom role) :
  m.stale role ≠ m.image.base
  := by
  intro heq
  apply h.2
  rw [stale, ImageSettings.base, ImageRef.mk.injEq] at heq
  exact heq.2.symm

end Manager

end JoinBench
