import JoinBench.Proofs.Host.Cluster

/-!
# Layers that answer faithfully

An error of a container host names that host, and tells of its connection or of an operation that
was refused.  A unit that it launches is on it.  Hosts in memory answer so, whatever they are asked.
-/

namespace JoinBench

/-- An error that comes from a container host. -/
inductive Error.IsFrom (id : HostId) : Error → Prop where
  | connection (reason : String) : IsFrom id (.connection id reason)
  | runtime (operation : Operation) (reason : String) : IsFrom id (.runtime id operation reason)

namespace Host

namespace Request

/-- What a host may yield: a unit that it launched is on it. -/
def Yields (id : HostId) : (r : Request) → r.Value → Prop
  | launch _, unit => unit.host = id
  | _, _ => True

/-- An answer that a host may give. -/
def IsFaithful (id : HostId) (r : Request) (x : r.Answer) : Prop :=
  ∃ result : Except Error r.Value, r.settle result = x
    ∧ (∀ e, result = .error e → e.IsFrom id) ∧ ∀ value, result = .ok value → r.Yields id value

variable {id : HostId}

theorem isFaithful_ok (r : Request) {value : r.Value} (h : r.Yields id value) :
  r.IsFaithful id (r.settle (.ok value))
  := by
  refine ⟨.ok value, rfl, ?_, ?_⟩
  · rintro _ ⟨⟩
  · rintro _ ⟨⟩
    exact h

theorem isFaithful_error (r : Request) {e : Error} (h : e.IsFrom id) :
  r.IsFaithful id (r.settle (.error e))
  := by
  refine ⟨.error e, rfl, ?_, ?_⟩
  · rintro _ ⟨⟩
    exact h
  · rintro _ ⟨⟩

end Request

/-- Whatever a layer answers, a host of that name may answer. -/
def Layer.IsFaithful {τ : Type} (layer : Layer τ) : Prop :=
  ∀ id r s x s', layer id r s = (some x, s') → r.IsFaithful id x

theorem Memory.isFaithful_answer (r : Request) (host : Memory) :
  r.IsFaithful host.id (host.answer r).1
  := by
  cases r with
  | list label =>
      simp only [answer]
      split_ifs
      · exact Request.isFaithful_error (.list label) (.connection _)
      · exact Request.isFaithful_ok (.list label) trivial
  | launch spec =>
      simp only [answer, launch]
      split_ifs
      · exact Request.isFaithful_error (.launch spec) (.connection _)
      · exact Request.isFaithful_error (.launch spec) (.runtime _ _)
      · exact Request.isFaithful_error (.launch spec) (.runtime _ _)
      · exact Request.isFaithful_ok (.launch spec) rfl
  | wait unit =>
      simp only [answer]
      split
      · exact Request.isFaithful_ok (.wait unit) trivial
      · exact Request.isFaithful_error (.wait unit) (.runtime _ _)
  | logs unit select =>
      simp only [answer]
      split
      · exact Request.isFaithful_ok (.logs unit select) trivial
      · exact Request.isFaithful_error (.logs unit select) (.runtime _ _)
  | follow unit =>
      simp only [answer]
      split
      · exact Request.isFaithful_ok (.follow unit) trivial
      · exact Request.isFaithful_error (.follow unit) (.runtime _ _)
  | remove unitId force => exact Request.isFaithful_ok (.remove unitId force) trivial
  | tag source target =>
      simp only [answer]
      split
      · exact Request.isFaithful_ok (.tag source target) trivial
      · exact Request.isFaithful_error (.tag source target) (.runtime _ _)
  | removeImage image => exact Request.isFaithful_ok (.removeImage image) trivial
  | commit unit target =>
      simp only [answer]
      split_ifs
      · exact Request.isFaithful_ok (.commit unit target) trivial
      · exact Request.isFaithful_error (.commit unit target) (.runtime _ _)

theorem Cluster.isFaithful_layer :
  Cluster.layer.IsFaithful
  := by
  intro id r cluster x cluster' h
  rw [layer] at h
  cases hhost : host? id cluster with
  | none =>
      rw [answer?_of_host?_eq_none r hhost] at h
      cases h
  | some host =>
      obtain ⟨rest, hanswer, -⟩ := answer?_of_host? r hhost
      rw [hanswer] at h
      cases h
      rw [← id_of_host? hhost]
      exact host.isFaithful_answer r

end Host

end JoinBench
