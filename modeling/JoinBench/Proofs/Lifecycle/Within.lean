import JoinBench.Proofs.Fabric
import JoinBench.Proofs.Lifecycle.Actions
import JoinBench.Proofs.World.Story

/-!
# Jobs within a fabric

Where the hosts of a fabric are there, a job that only asks them always ends, whatever they hold
and whichever of them are down.  The operations of a manager are such jobs, and they write nothing
to the sinks.
-/

namespace JoinBench

open Host

/-- The action writes no record and is no request to a host outside the fabric. -/
def Action.IsWithin (fabric : Fabric) : Action → Prop
  | ask id _ => id ∈ fabric.hosts
  | emit _ => False
  | _ => True

theorem Manager.Works.isWithin {m : Manager} {action : Action} (h : m.Works action) :
  action.IsWithin m.fabric
  := by
  cases h with
  | tends h =>
      cases h with
      | own h =>
          cases action with
          | ask | emit => cases h
          | stateOf | setState | forgetStates | log | pause | now => trivial
      | list h | wait h | logs h | follow h | remove h => exact h
  | launch h | tagBase h | tagStale h | removeCheckpoint h | removeStale h | commit h => exact h

/-- No interrupt is due, and all hosts of the fabric are there. -/
structure Fabric.IsIn (fabric : Fabric) (w : World Cluster) : Prop where
  deadline_eq : w.deadline = none
  isThere : fabric.IsThere w.scene

/-- An action within the fabric is answered, and the hosts are still there. -/
theorem Fabric.IsIn.answering {fabric : Fabric} {w : World Cluster} (h : fabric.IsIn w)
    {action : Action} (haction : action.IsWithin fabric) :
  ∃ x w', World.answering action w = (some x, w') ∧ fabric.IsIn w' ∧ w'.sinks = w.sinks
  := by
  cases action with
  | ask id request =>
      obtain ⟨host, hhost⟩ := h.isThere id haction
      obtain ⟨hosts, hanswer, hscene⟩ := World.exists_answering_ask hhost request
      refine ⟨_, _, hanswer, ⟨h.deadline_eq, ?_⟩, rfl⟩
      rw [hscene]
      apply h.isThere.setHost
  | pause ms =>
      refine ⟨(), { w with clock := w.clock + ms }, ?_, ⟨h.deadline_eq, h.isThere⟩, rfl⟩
      simp only [World.handler, World.pause, h.deadline_eq]
  | emit => cases haction
  | stateOf | setState | forgetStates | log | now =>
      exact ⟨_, _, rfl, ⟨h.deadline_eq, h.isThere⟩, rfl⟩

/-- A job within the fabric ends, and writes nothing to the sinks. -/
theorem Fabric.IsIn.exists_run {fabric : Fabric} {w : World Cluster} (h : fabric.IsIn w) {α : Type}
    {job : Job α} (hwithin : job.Makes (Action.IsWithin fabric)) :
  ∃ r w', World.run Cluster.layer job w = (some r, w') ∧ fabric.IsIn w' ∧ w'.sinks = w.sinks
  := by
  have hanswers : ∀ (action : Action.interface.Call) (w₁ : World Cluster),
      action.IsWithin fabric → fabric.IsIn w₁ ∧ w₁.sinks = w.sinks →
        ∃ x w₂, World.answering action w₁ = (some x, w₂)
          ∧ fabric.IsIn w₂ ∧ w₂.sinks = w.sinks := by
    rintro action w₁ haction ⟨h₁, hsinks⟩
    obtain ⟨x, w₂, hanswer, h₂, hsame⟩ := h₁.answering haction
    exact ⟨x, w₂, hanswer, h₂, hsame.trans hsinks⟩
  exact Program.run_ends hanswers hwithin ⟨h, rfl⟩

/-- A job within the fabric that neither launches nor commits leads somewhere in any story, and adds
no deeds to it. -/
theorem Story.goes_of_isWithin {st : Story} {fabric : Fabric} (hthere : fabric.IsThere st.scene)
    {α : Type} {job : Job α} (hwithin : job.Makes (Action.IsWithin fabric))
    (hquiet : job.Makes Action.IsQuiet) {Q : Except Error α → Story → Prop}
    (hQ : ∀ r sc, Q r ⟨sc, st.deeds⟩) :
  st.Goes job Q
  := by
  apply goes_of_leads hquiet
  intro w hw hd
  have hin : fabric.IsIn w := ⟨hd, hw ▸ hthere⟩
  obtain ⟨r, w', hrun, hin', -⟩ := hin.exists_run hwithin
  exact ⟨r, w', hrun, hin'.deadline_eq, hQ r _⟩

end JoinBench
