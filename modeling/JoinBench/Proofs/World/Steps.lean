import JoinBench.Proofs.Program.Moments
import JoinBench.Proofs.World.Scene

/-!
# Jobs step by step

Of the actions of a job those take time that ask a host or let time pass; all others are answered
at once.  So a job that waits has come to a request or to a pause.
-/

namespace JoinBench

open Program

/-- The action takes time: it asks a host, or lets time pass. -/
def Action.IsAwaited : Action → Prop
  | ask _ _ => True
  | pause _ => True
  | _ => False

namespace World

variable {τ : Type}

/-- Only actions that take time may be left without an answer. -/
theorem exists_handler_of_not_isAwaited (layer : Host.Layer τ) {action : Action}
    (h : ¬ action.IsAwaited) (w : World τ) :
  ∃ x w', World.handler layer action w = (some x, w')
  := by
  cases action with
  | ask | pause => exact (h trivial).elim
  | stateOf | setState | forgetStates | log | now | emit => exact ⟨_, _, rfl⟩

theorem pause_snd (w : World τ) (ms : Nat) :
  ∃ clock, (w.pause ms).2 = { w with clock := clock }
  := by
  rw [pause]
  cases w.deadline with
  | none => exact ⟨_, rfl⟩
  | some t =>
      simp only
      split_ifs
      · exact ⟨_, rfl⟩
      · exact ⟨_, rfl⟩

/-- Only the writing of a record changes the sinks. -/
theorem sinks_handler (layer : Host.Layer τ) {action : Action}
    (h : ∀ record, action ≠ .emit record) (w : World τ) :
  (World.handler layer action w).2.sinks = w.sinks
  := by
  cases action with
  | emit record => exact (h record rfl).elim
  | pause ms =>
      obtain ⟨clock, hclock⟩ := w.pause_snd ms
      rw [handler, hclock]
  | ask | stateOf | setState | forgetStates | log | now => rfl

/-- Only requests change the hosts. -/
theorem hosts_handler (layer : Host.Layer τ) {action : Action}
    (h : ∀ id request, action ≠ .ask id request) (w : World τ) :
  (World.handler layer action w).2.hosts = w.hosts
  := by
  cases action with
  | ask id request => exact (h id request rfl).elim
  | pause ms =>
      obtain ⟨clock, hclock⟩ := w.pause_snd ms
      rw [handler, hclock]
  | emit | stateOf | setState | forgetStates | log | now => rfl

end World

namespace Job

variable {σ α : Type} {handle : Handler Action.interface σ} {others : Action → Prop}
  {action : Action} {f : action.Answer → Job α} {left : Job α} {s s' : σ}

/-- An action is waited for in surroundings of one kind, and answered it leads to surroundings of
another. -/
theorem stepsAmid_perform (pre : σ → Prop) (post : action.Answer → σ → Prop)
    (h : StepsAmid handle others (perform action >>= f) s left s') (hs : pre s)
    (hothers : ∀ other s, others other → pre s → pre (handle other s).2)
    (hidle : ∀ s s', pre s → handle action s = (none, s') → pre s')
    (hanswer : ∀ s x s', pre s → handle action s = (some x, s') → post x s') :
  (left = (perform action >>= f) ∧ pre s')
    ∨ ∃ x s₁, post x s₁ ∧ StepsAmid handle others (f x) s₁ left s'
  := stepsAmid_call hothers hidle hanswer hs h

/-- A job that waits is past the actions that are answered at once. -/
theorem steps_of_awaits (haction : ¬ action.IsAwaited) {x : action.Answer} {s₁ : σ}
    (hanswer : handle action s = (some x, s₁))
    (h : Steps handle (perform action >>= f) s left s') (hleft : left.Awaits Action.IsAwaited) :
  Steps handle (f x) s₁ left s'
  := by
  have hsteps := stepsAmid_perform (fun s₂ => s₂ = s) (fun y s₂ => y = x ∧ s₂ = s₁) h rfl
    (fun _ _ h => h.elim) ?_ ?_
  · obtain ⟨rfl, -⟩ | ⟨y, s₂, ⟨rfl, rfl⟩, h⟩ := hsteps
    · exact (haction hleft).elim
    · exact h
  · rintro _ s₂ rfl hnone
    rw [hanswer] at hnone
    cases hnone
  · rintro _ y s₂ rfl hsome
    rw [hanswer] at hsome
    cases hsome
    exact ⟨rfl, rfl⟩

end Job

end JoinBench
