import JoinBench.Proofs.Program.Record
import JoinBench.Proofs.World.Scene

/-!
# The requests of a job

The requests of a job are what the hosts get to see of it.  `w.Performs job asked r w'` says that
the job, run in the surroundings `w`, makes the requests `asked` and no others, and ends with the
result `r` in the surroundings `w'`.
-/

namespace JoinBench

open Host

/-- The request to a host that an action is, if it is one. -/
def Action.request? : Action → Option (HostId × Request)
  | ask id request => some (id, request)
  | _ => none

namespace World

variable {α β : Type} {w w' w'' : World Cluster}

/-- The requests that a job makes, in order. -/
def requests (job : Job α) (w : World Cluster) : List (HostId × Request) :=
  (job.calls World.answering w).filterMap fun call => call.1.request?

/-- The job makes these requests, and ends with this result in these surroundings. -/
structure Performs (w : World Cluster) (job : Job α) (asked : List (HostId × Request))
    (r : Except Error α) (w' : World Cluster) : Prop where
  run_eq : World.run Cluster.layer job w = (some r, w')
  requests_eq : requests job w = asked

theorem performs_pure (w : World Cluster) (a : α) :
  w.Performs (pure a) [] (.ok a) w
  := ⟨rfl, rfl⟩

theorem performs_throw (w : World Cluster) (e : Error) :
  w.Performs (throw e : Job α) [] (.error e) w
  := ⟨rfl, rfl⟩

theorem Performs.bind {job : Job α} {f : α → Job β} {asked more : List (HostId × Request)} {a : α}
    {r : Except Error β} (h : w.Performs job asked (.ok a) w') (hf : w'.Performs (f a) more r w'') :
  w.Performs (job >>= f) (asked ++ more) r w''
  := by
  have hrun : job.run World.answering w = (some (.ok a), w') := h.run_eq
  constructor
  · have hbind : World.run Cluster.layer (job >>= f) w = _ := Program.run_bind job f w
    rw [hbind, hrun]
    exact hf.run_eq
  · have hbind : (job >>= f).calls World.answering w = _ := Program.calls_bind job f w
    rw [requests, hbind, hrun, List.filterMap_append]
    congr 1
    · exact h.requests_eq
    · exact hf.requests_eq

theorem Performs.bind_error {job : Job α} {f : α → Job β} {asked : List (HostId × Request)}
    {e : Error} (h : w.Performs job asked (.error e) w') :
  w.Performs (job >>= f) asked (.error e) w'
  := by
  have hrun : job.run World.answering w = (some (.error e), w') := h.run_eq
  constructor
  · have hbind : World.run Cluster.layer (job >>= f) w = _ := Program.run_bind job f w
    rw [hbind, hrun]
  · have hbind : (job >>= f).calls World.answering w = _ := Program.calls_bind job f w
    rw [requests, hbind, hrun, List.append_nil]
    exact h.requests_eq

theorem Performs.attempt {job : Job α} {asked : List (HostId × Request)} {r : Except Error α}
    (h : w.Performs job asked r w') :
  w.Performs job.attempt asked (.ok r) w'
  := by
  have hrun : job.run World.answering w = (some r, w') := h.run_eq
  constructor
  · have hattempt : World.run Cluster.layer job.attempt w = _ := Program.run_attempt job w
    rw [hattempt, hrun]
    rfl
  · rw [requests, Program.calls_attempt]
    exact h.requests_eq

/-- Only the log and the sinks are different. -/
structure Resumes (w w' : World Cluster) : Prop where
  hosts_eq : w'.hosts = w.hosts
  states_eq : w'.states = w.states
  clock_eq : w'.clock = w.clock
  deadline_eq : w'.deadline = w.deadline

theorem Resumes.refl (w : World Cluster) :
  w.Resumes w
  := ⟨rfl, rfl, rfl, rfl⟩

theorem Resumes.trans (h : w.Resumes w') (h' : w'.Resumes w'') :
  w.Resumes w''
  where
    hosts_eq := h'.hosts_eq.trans h.hosts_eq
    states_eq := h'.states_eq.trans h.states_eq
    clock_eq := h'.clock_eq.trans h.clock_eq
    deadline_eq := h'.deadline_eq.trans h.deadline_eq

theorem exists_performs_log (w : World Cluster) (level : Level) (message : String) :
  ∃ w', w.Performs (Job.log level message) [] (.ok ()) w' ∧ w.Resumes w' ∧ w'.sinks = w.sinks
  := ⟨{ w with log := .of level message :: w.log }, ⟨rfl, rfl⟩, ⟨rfl, rfl, rfl, rfl⟩, rfl⟩

theorem performs_emit (w : World Cluster) (record : ResultRecord) :
  w.Performs (Job.emit record) [] (w.emit record).1 (w.emit record).2
  := by
  have hperform : w.Performs (Job.perform (.emit record)) [] (.ok (w.emit record).1)
      (w.emit record).2 := ⟨rfl, rfl⟩
  apply hperform.bind
  cases (w.emit record).1 with
  | error e => apply performs_throw
  | ok done => apply performs_pure

theorem exists_performs_emit (w : World Cluster) (record : ResultRecord) :
  ∃ w', w.Performs (Job.emit record) [] (w.sinks.emit record).2 w' ∧ w.Resumes w'
    ∧ w'.sinks = (w.sinks.emit record).1
  := ⟨(w.emit record).2, w.performs_emit record, ⟨rfl, rfl, rfl, rfl⟩, rfl⟩

end World

end JoinBench
