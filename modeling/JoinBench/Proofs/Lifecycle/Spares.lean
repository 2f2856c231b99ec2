import JoinBench.Proofs.Host.Ready
import JoinBench.Proofs.Lifecycle.Actions

/-!
# Operations spare the base image

No operation of a manager touches the tag of the base image where it is told apart from the tags
of all roles, and every launch carries the label of the manager.  So whatever the hosts answer,
and however an operation ends, hosts that were ready stay ready.
-/

namespace JoinBench

open Host

/-- The action is no request, or one that leaves ready hosts ready. -/
def Action.Spares (base : ImageRef) (label : String) : Action → Prop
  | ask _ request => request.Spares base label
  | _ => True

/-- The job only takes actions that leave ready hosts ready. -/
abbrev Job.Spares (base : ImageRef) (label : String) {α : Type} (job : Job α) : Prop :=
  Program.Makes (Action.Spares base label) job

namespace Manager

variable {m : Manager} {action : Action}

theorem Tends.spares (h : m.Tends action) :
  action.Spares m.image.base m.label
  := by
  cases h with
  | own h =>
      cases action with
      | ask => cases h
      | stateOf | setState | forgetStates | log | pause | now | emit => trivial
  | list | wait | logs | follow | remove => trivial

theorem Works.spares (hapart : m.image.IsApart) (h : m.Works action) :
  action.Spares m.image.base m.label
  := by
  cases h with
  | tends h => exact h.spares
  | launch => exact List.mem_singleton_self m.label
  | tagBase _ role => exact checkpoint_ne_base (hapart role)
  | tagStale _ role => exact stale_ne_base (hapart role)
  | removeCheckpoint _ role => exact checkpoint_ne_base (hapart role)
  | removeStale _ role => exact stale_ne_base (hapart role)
  | commit _ _ role => exact checkpoint_ne_base (hapart role)

end Manager

end JoinBench
