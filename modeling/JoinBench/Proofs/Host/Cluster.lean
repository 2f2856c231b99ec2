import JoinBench.Host.Cluster
import Mathlib.Logic.Function.Basic
import Mathlib.Tactic.Common

/-!
# A cluster seen from its hosts

A request to a host of a cluster is answered by that host, which is afterwards what its answer
left; the other hosts stay as they are.
-/

namespace JoinBench.Host

variable {id : HostId} {cluster : Cluster} {host : Memory}

/-- A request leaves a host its name. -/
theorem Memory.id_answer (r : Request) (host : Memory) :
  (host.answer r).2.id = host.id
  := by
  cases r with
  | list | wait | logs | follow | remove | removeImage => rfl
  | launch spec =>
      simp only [answer, launch]
      split_ifs <;> rfl
  | tag source target =>
      simp only [answer]
      split <;> rfl
  | commit unit target =>
      simp only [answer]
      split_ifs <;> rfl

namespace Cluster

/-- The host that answers under a name has that name. -/
theorem id_of_host? (h : host? id cluster = some host) :
  host.id = id
  := by
  induction cluster with
  | nil => cases h
  | cons first rest ih =>
      rw [host?, Option.or_eq_some_iff] at h
      obtain h | ⟨-, h⟩ := h
      · apply ih h
      · split_ifs at h with hid
        cases h
        exact hid

/-- Changing every host changes the host under a name, as long as no name changes. -/
theorem host?_map {f : Memory → Memory} (hf : ∀ host, (f host).id = host.id) (id : HostId)
    (cluster : Cluster) :
  host? id (cluster.map f) = (host? id cluster).map f
  := by
  induction cluster with
  | nil => rfl
  | cons first rest ih =>
      rw [List.map_cons, host?, host?, ih, hf, Option.map_or]
      split_ifs <;> rfl

theorem answer?_of_host?_eq_none (r : Request) (h : host? id cluster = none) :
  answer? id r cluster = none
  := by
  induction cluster with
  | nil => rfl
  | cons first rest ih =>
      rw [host?, Option.or_eq_none_iff] at h
      obtain ⟨hrest, hfirst⟩ := h
      have hid : first.id ≠ id := by
        intro hid
        rw [if_pos hid] at hfirst
        cases hfirst
      simp only [answer?, ih hrest, if_neg hid]

/-- A request is answered by the host of its name, and changes no other host. -/
theorem answer?_of_host? (r : Request) (h : host? id cluster = some host) :
  ∃ cluster', answer? id r cluster = some ((host.answer r).1, cluster')
    ∧ (fun i => host? i cluster')
      = Function.update (fun i => host? i cluster) id (some (host.answer r).2)
  := by
  induction cluster with
  | nil => cases h
  | cons first rest ih =>
      cases hrest : host? id rest with
      | some behind =>
          rw [host?, hrest, Option.some_or] at h
          cases h
          obtain ⟨rest', hanswer, hhosts⟩ := ih hrest
          use first :: rest'
          constructor
          · simp only [answer?, hanswer]
          · funext i
            have hi := congrFun hhosts i
            by_cases hid : i = id
            · subst hid
              simp only [Function.update_self] at hi ⊢
              rw [host?, hi, Option.some_or]
            · simp only [Function.update_of_ne hid] at hi ⊢
              rw [host?, hi, host?]
      | none =>
          rw [host?, hrest, Option.none_or] at h
          split_ifs at h with hid
          cases h
          use (host.answer r).2 :: rest
          constructor
          · simp only [answer?, answer?_of_host?_eq_none r hrest, if_pos hid]
          · funext i
            by_cases hi : i = id
            · subst hi
              simp only [Function.update_self, host?, hrest, Memory.id_answer, if_pos hid,
                Option.none_or]
            · have hne : host.id ≠ i := fun h => hi (h ▸ hid)
              simp only [Function.update_of_ne hi, host?, Memory.id_answer, if_neg hne]

end Cluster

end JoinBench.Host
