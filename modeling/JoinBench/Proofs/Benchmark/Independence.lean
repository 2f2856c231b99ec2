import JoinBench.Proofs.Benchmark.Actions
import JoinBench.Proofs.Benchmark.Point
import JoinBench.Proofs.Lifecycle.Spares

/-!
# Experiments do not influence each other

Whatever experiments went before on the hosts, and wherever each of them broke off, the hosts are
ready as they were at the start, and on ready hosts the result of an experiment does not depend
on anything else they hold.
-/

namespace JoinBench

open Host

/-! ### Hosts stay ready -/

namespace Benchmark

variable {b : Benchmark} {results : HostId → LaunchSpec → UnitResult}

/-- No action of an experiment touches the base image or leaves a unit without the label. -/
theorem spares_runPoint (b : Benchmark) (point : Point) (hapart : b.env.image.IsApart) :
  Job.Spares b.env.image.base b.env.containerLabel (b.runPoint point)
  := by
  apply makes_runPoint
  intro m hmanager action haction
  have hm := manages_of_manager hmanager
  rw [← hm.image_eq] at hapart ⊢
  rw [← hm.label_eq]
  exact haction.spares hapart

/-- An action that spares the base image leaves the surroundings ready. -/
theorem IsReadyIn.answering {w : World Cluster} (h : b.IsReadyIn results w) {action : Action}
    (haction : action.Spares b.env.image.base b.env.containerLabel) :
  b.IsReadyIn results (World.answering action w).2
  := by
  cases action with
  | ask id request =>
      constructor
      · exact h.deadline_eq
      · intro other hother
        obtain ⟨host, hhost, hready⟩ := h.exists_host other hother
        cases hid : w.scene.hosts id with
        | none =>
            rw [World.answering_ask_eq_none hid]
            exact ⟨host, hhost, hready⟩
        | some asked =>
            obtain ⟨hosts, hanswer, hscene⟩ := World.exists_answering_ask hid request
            have hview := congrFun (congrArg Scene.hosts hscene) other
            rw [Scene.hosts_setHost] at hview
            rw [hanswer]
            by_cases heq : other = id
            · subst heq
              obtain rfl := Option.some_inj.mp (hid.symm.trans hhost)
              rw [Function.update_self] at hview
              exact ⟨_, hview, hready.answer haction⟩
            · rw [Function.update_of_ne heq] at hview
              exact ⟨host, hview.trans hhost, hready⟩
  | pause ms =>
      constructor
      · simp only [World.handler, World.pause, h.deadline_eq]
      · simp only [World.handler, World.pause, h.deadline_eq]
        exact h.exists_host
  | stateOf | setState | forgetStates | log | now | emit => exact ⟨h.deadline_eq, h.exists_host⟩

/-! ### Earlier experiments -/

/-- The surroundings behind an experiment that is cut off behind so many actions, or runs to its
end where no number is given. -/
def behind (b : Benchmark) (point : Point) : (cut : Option Nat) → World Cluster → World Cluster
  | none, w => (World.run Cluster.layer (b.runPoint point) w).2
  | some actions, w => ((b.runPoint point).run World.answering.upTo (actions, w)).2.2

/-- The surroundings behind several experiments, one after the other. -/
def behindAll (b : Benchmark) (history : List (Point × Option Nat)) (w : World Cluster) :
    World Cluster :=
  history.foldl (fun w earlier => b.behind earlier.1 earlier.2 w) w

theorem IsReadyIn.behind {w : World Cluster} (h : b.IsReadyIn results w)
    (hapart : b.env.image.IsApart) (point : Point) (cut : Option Nat) :
  b.IsReadyIn results (b.behind point cut w)
  := by
  have hspares := spares_runPoint b point hapart
  have hkeeps : ∀ (action : Action.interface.Call) (w : World Cluster),
      action.Spares b.env.image.base b.env.containerLabel → b.IsReadyIn results w →
        b.IsReadyIn results (World.answering action w).2 :=
    fun _ _ haction hw => hw.answering haction
  cases cut with
  | none => exact Program.run_keeps hkeeps hspares h
  | some actions =>
      have hcut : ∀ (action : Action.interface.Call) (s : Nat × World Cluster),
          action.Spares b.env.image.base b.env.containerLabel → b.IsReadyIn results s.2 →
            b.IsReadyIn results (World.answering.upTo action s).2.2 :=
        fun action s haction hs => Handler.upTo_keeps hkeeps action s haction hs
      exact Program.run_keeps hcut hspares h

theorem IsReadyIn.behindAll {w : World Cluster} (h : b.IsReadyIn results w)
    (hapart : b.env.image.IsApart) (history : List (Point × Option Nat)) :
  b.IsReadyIn results (b.behindAll history w)
  := by
  induction history generalizing w with
  | nil => exact h
  | cons earlier rest ih => apply ih (h.behind hapart earlier.1 earlier.2)

/-- The result of an experiment behind any others, whether they ran to their end or were cut off
anywhere, is the result that it has on any other hosts that are ready with the same units. -/
theorem run_runPoint_behindAll (hapart : b.env.image.IsApart) {w fresh : World Cluster}
    (hready : b.IsReadyIn results w) (hfresh : b.IsReadyIn results fresh)
    (history : List (Point × Option Nat)) (point : Point) :
  ∃ r, (World.run Cluster.layer (b.runPoint point) (b.behindAll history w)).1 = some r
    ∧ (World.run Cluster.layer (b.runPoint point) fresh).1 = some r
  := by
  obtain ⟨w₁, hrun₁, -⟩ := exists_run_runPoint (hready.behindAll hapart history) hapart point
  obtain ⟨w₂, hrun₂, -⟩ := exists_run_runPoint hfresh hapart point
  use b.verdict results point
  rw [hrun₁, hrun₂]
  exact ⟨rfl, rfl⟩

/-- An experiment that was cut off and one that could not succeed leave no trace. -/
theorem run_runPoint_behind_cut :
  ∃ r, (World.run Cluster.layer (usual.runPoint ⟨2, 3, 5, 2, 0⟩)
      (usual.behindAll [(⟨0, 2, 5, 2, 0⟩, some 40), (⟨1, 1, 5, 2, 0⟩, none)] usualWorld)).1 = some r
    ∧ (World.run Cluster.layer (usual.runPoint ⟨2, 3, 5, 2, 0⟩) usualWorld).1 = some r
  := run_runPoint_behindAll Environment.isApart_usual isReadyIn_usualWorld isReadyIn_usualWorld
    [(⟨0, 2, 5, 2, 0⟩, some 40), (⟨1, 1, 5, 2, 0⟩, none)] ⟨2, 3, 5, 2, 0⟩

end Benchmark

end JoinBench
