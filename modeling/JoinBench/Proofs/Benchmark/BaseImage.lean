import JoinBench.Proofs.Benchmark.Independence
import JoinBench.Proofs.Lifecycle.Resetting
import JoinBench.Proofs.Lifecycle.Session
import JoinBench.Proofs.Lifecycle.Stocked

/-!
# The base image stays

All tags of an environment stand in one repository.  Where the base tag is told apart from the tags
of all roles, whatever experiments, grids and operations are run, and wherever they are cut off,
every host holds the same base image as at the start.  The checks of an environment do not ask for
that: a base tag that is the name of a role is accepted, and then putting back that role removes the
base image.
-/

namespace JoinBench

open Host

/-! ### Requests that spare the base image -/

/-- A request that spares the base image leaves what is behind its tag. -/
theorem Host.Memory.getElem?_images_answer {base : ImageRef} {label : String} {r : Request}
    (hr : r.Spares base label) (host : Memory) :
  (host.answer r).2.images[base]? = host.images[base]?
  := by
  cases r with
  | list | wait | logs | follow | remove => rfl
  | launch spec =>
      have hlaunch := launch_cases spec host
      rw [answer]
      rcases hlaunch with ⟨e, hlaunch⟩ | ⟨-, -, hlaunch⟩
      · rw [hlaunch]
        rfl
      · rw [hlaunch]
        rfl
  | tag source target =>
      have htarget : target ≠ base := hr
      simp only [answer]
      split
      · rw [Std.ExtTreeMap.getElem?_insert]
        simp [htarget]
      · rfl
  | removeImage image =>
      have himage : image ≠ base := hr
      simp [answer, Std.ExtTreeMap.getElem?_erase, himage]
  | commit unit target =>
      have htarget : target ≠ base := hr
      simp only [answer]
      split_ifs
      · rw [addImage, Std.ExtTreeMap.getElem?_insert]
        simp [htarget]
      · rfl

namespace World

variable {w : World Cluster} {base : ImageRef} {label : String}

/-- An action that spares the base image leaves it on every host. -/
theorem image?_answering {action : Action} (h : action.Spares base label) (w : World Cluster)
    (id : HostId) :
  (World.answering action w).2.scene.image? id base = w.scene.image? id base
  := by
  cases action with
  | ask asked request =>
      cases hasked : w.scene.hosts asked with
      | none => rw [World.answering_ask_eq_none hasked]
      | some host =>
          obtain ⟨hosts, hanswer, hscene⟩ := World.exists_answering_ask hasked request
          rw [hanswer, hscene, Scene.image?, Scene.hosts_setHost]
          by_cases hid : id = asked
          · rw [hid, Function.update_self, Scene.image?, hasked]
            exact Memory.getElem?_images_answer h host
          · rw [Function.update_of_ne hid]
            rfl
  | pause ms =>
      simp only [World.handler, World.pause]
      split
      · split_ifs <;> rfl
      · rfl
  | stateOf | setState | forgetStates | log | now | emit => rfl

/-- The surroundings behind a job that is cut off behind so many actions, or runs to its end where
no number is given. -/
def behind {α : Type} (job : Job α) : (cut : Option Nat) → World Cluster → World Cluster
  | none, w => (World.run Cluster.layer job w).2
  | some actions, w => (job.run World.answering.upTo (actions, w)).2.2

/-- A job that spares the base image leaves it on every host, wherever it is cut off. -/
theorem image?_behind {α : Type} {job : Job α} (h : Job.Spares base label job)
    (cut : Option Nat) (w : World Cluster) (id : HostId) :
  (behind job cut w).scene.image? id base = w.scene.image? id base
  := by
  have hkeeps : ∀ (action : Action.interface.Call) (w' : World Cluster),
      action.Spares base label → w'.scene.image? id base = w.scene.image? id base →
        (World.answering action w').2.scene.image? id base = w.scene.image? id base := by
    intro action w' haction hw'
    rw [image?_answering haction, hw']
  cases cut with
  | none => exact Program.run_keeps hkeeps h rfl
  | some actions =>
      have hcut : ∀ (action : Action.interface.Call) (s : Nat × World Cluster),
          action.Spares base label → s.2.scene.image? id base = w.scene.image? id base →
            (World.answering.upTo action s).2.2.scene.image? id base
              = w.scene.image? id base :=
        fun action s haction hs => Handler.upTo_keeps hkeeps action s haction hs
      exact Program.run_keeps (s := (actions, w)) hcut h rfl

end World

/-! ### What spares the base image -/

open Program

namespace Manager

variable {m : Manager}

/-- Every operation keeps to the actions of its manager. -/
theorem works_job (m : Manager) (op : Operation) :
  (op.job m).Makes m.Works
  := by
  have hnothing : ∀ {α : Type} {job : Job α}, job.Makes m.Works →
      (do let _ ← job; return [] : Job (List UnitHandle)).Makes m.Works :=
    fun hjob => makes_bind hjob fun _ => makes_pure _
  cases op with
  | cleanAll => exact hnothing (works_of_tends m m.tends_cleanAll)
  | prepareImages => exact hnothing m.works_prepareImages
  | runRole role command flags =>
      apply makes_bind
      · apply m.works_runRole
      · intro unit
        apply makes_pure
  | runAll command roles flags => exact m.works_runAll command roles flags
  | wait unit => exact hnothing (works_of_tends m (m.tends_wait unit))
  | waitAll units =>
      apply hnothing
      apply makes_all
      intro job hjob
      obtain ⟨unit, -, rfl⟩ := List.mem_map.mp hjob
      exact works_of_tends m (m.tends_wait unit)
  | ensureSuccess unit => exact hnothing (works_of_tends m (m.tends_ensureSuccess unit))
  | commit units => exact hnothing (m.works_commit units)

/-- A job of a manager spares the base image where it is told apart from the tags of all roles. -/
theorem spares_of_works {α : Type} {job : Job α} (hapart : m.image.IsApart)
    (h : job.Makes m.Works) :
  Job.Spares m.image.base m.label job
  := h.mono fun _ => Works.spares hapart

end Manager

namespace Benchmark

variable {b : Benchmark}

/-- What holds of all actions of its experiments holds of all actions of a grid, if it holds of
writing to the log and to the sinks. -/
theorem makes_runGrid {P : Action → Prop} (hlog : ∀ line, P (.log line))
    (hemit : ∀ record, P (.emit record)) (hpoint : ∀ point, (b.runPoint point).Makes P)
    (points : List Point) :
  (b.runGrid points).Makes P
  := by
  have hpoints : ∀ summary, (b.runPoints points summary).Makes P := by
    induction points with
    | nil =>
        intro summary
        apply makes_pure
    | cons point rest ih =>
        intro summary
        apply makes_bind
        · exact makes_perform (hlog _)
        intro _
        apply makes_bind
        · apply makes_attempt
          apply hpoint
        intro result
        cases result with
        | ok record =>
            apply makes_bind
            · exact makes_perform (hlog _)
            intro _
            apply makes_bind
            · apply makes_bind
              · exact makes_perform (hemit record)
              · apply makes_ofExcept
            · intro _
              apply ih
        | error e =>
            simp only
            split_ifs
            · apply makes_bind
              · exact makes_perform (hlog _)
              · intro _
                apply ih
            · apply makes_throw
  apply makes_bind
  · exact makes_perform (hlog _)
  intro _
  apply makes_bind
  · apply hpoints
  intro summary
  apply makes_bind
  · exact makes_perform (hlog _)
  · intro _
    apply makes_pure

theorem spares_runGrid (hapart : b.env.image.IsApart) (points : List Point) :
  Job.Spares b.env.image.base b.env.containerLabel (b.runGrid points)
  := by
  apply makes_runGrid
  · exact fun _ => trivial
  · exact fun _ => trivial
  · exact fun point => spares_runPoint b point hapart

/-! ### Any use of the hosts -/

/-- A call of the benchmark, or of a manager over its images.  A manager comes with the states that
it keeps of the roles. -/
inductive Use (b : Benchmark) where
  | point (point : Point)
  | grid (points : List Point)
  | operate (m : Manager) (himage : m.image = b.env.image) (states : Role → UnitState)
    (op : Manager.Operation)
  | logs (m : Manager) (himage : m.image = b.env.image) (unit : UnitHandle) (select : LogSelect)
  | follow (m : Manager) (himage : m.image = b.env.image) (unit : UnitHandle)

/-- The surroundings behind a call that is cut off behind so many actions, or runs to its end where
no number is given. -/
def Use.behind (cut : Option Nat) : b.Use → World Cluster → World Cluster
  | .point p, w => World.behind (b.runPoint p) cut w
  | .grid points, w => World.behind (b.runGrid points) cut w
  | .operate m _ states op, w => World.behind (op.job m) cut { w with states := states }
  | .logs m _ unit select, w => World.behind (m.logs unit select) cut w
  | .follow m _ unit, w => World.behind (m.follow unit) cut w

/-- The surroundings behind several calls, one after the other. -/
def behindUses (b : Benchmark) (history : List (b.Use × Option Nat)) (w : World Cluster) :
    World Cluster :=
  history.foldl (fun w earlier => earlier.1.behind earlier.2 w) w

theorem baseImage_behind (hapart : b.env.image.IsApart) (use : b.Use) (cut : Option Nat)
    (w : World Cluster) (id : HostId) :
  (use.behind cut w).scene.image? id b.env.image.base = w.scene.image? id b.env.image.base
  := by
  have hmanager : ∀ {m : Manager} {α : Type} {job : Job α}, m.image = b.env.image →
      job.Makes m.Works → Job.Spares b.env.image.base m.label job := by
    intro m α job himage hworks
    rw [← himage] at hapart ⊢
    exact Manager.spares_of_works hapart hworks
  cases use with
  | point point => exact World.image?_behind (spares_runPoint b point hapart) cut w id
  | grid points => exact World.image?_behind (spares_runGrid hapart points) cut w id
  | operate m himage states op =>
      exact World.image?_behind (hmanager himage (m.works_job op)) cut { w with states := states }
        id
  | logs m himage unit select =>
      have hworks := Manager.works_of_tends m (m.tends_logs unit select)
      exact World.image?_behind (hmanager himage hworks) cut w id
  | follow m himage unit =>
      have hworks := Manager.works_of_tends m (m.tends_follow unit)
      exact World.image?_behind (hmanager himage hworks) cut w id

/-- Where the base tag is told apart from the tags of all roles, every host holds the same base
image behind any calls as before them, or none if it held none. -/
theorem baseImage_behindUses (hapart : b.env.image.IsApart) (history : List (b.Use × Option Nat))
    (w : World Cluster) (id : HostId) :
  (b.behindUses history w).scene.image? id b.env.image.base
    = w.scene.image? id b.env.image.base
  := by
  induction history generalizing w with
  | nil => rfl
  | cons earlier rest ih =>
      have hrest := ih (earlier.1.behind earlier.2 w)
      rw [baseImage_behind hapart] at hrest
      exact hrest

/-- An experiment that is cut off while roles are put back, a grid, and a manager of other hosts. -/
theorem baseImage_behindUses_usual :
  (usual.behindUses
      [(.point ⟨0, 2, 5, 2, 0⟩, some 12), (.grid [⟨0, 1, 5, 2, 0⟩, ⟨1, 3, 5, 0, 0⟩], none),
        (.operate ⟨⟨[], .localhost, ⟨"node-0"⟩⟩, ⟨[.localhost]⟩, {}, "other", []⟩ rfl
          (fun _ => .baseImage) .prepareImages, none)]
      usualWorld).scene.image? .localhost ⟨"mppj", "base"⟩
    = usualWorld.scene.image? .localhost ⟨"mppj", "base"⟩
  := baseImage_behindUses Environment.isApart_usual _ usualWorld .localhost

end Benchmark

/-! ### Base tags that are the name of a role -/

/-- Putting back a role whose checkpoint has the base tag fails, and removes the base image. -/
theorem Manager.leads_prepareImage_of_base_eq {m : Manager} {sc : Scene} {role : Role}
    {id : HostId} (hthere : m.fabric.IsThere sc) (hbase : m.image.base = m.checkpoint role)
    (hid : m.hostFor role = .ok id) (hbusy : (sc.states role).isBusy = false) :
  sc.Leads (m.prepareImage role) fun r sc' =>
    (∃ e, r = .error e) ∧ sc'.image? id m.image.base = none
  := by
  -- The old checkpoint is dropped before the base image is tagged, and here they are the same.
  have hmissing : ∀ host : Memory, (m.untagged role host).images[m.image.base]? = none := by
    intro host
    rw [untagged, hbase, Std.ExtTreeMap.getElem?_erase, Std.ExtTreeMap.getElem?_erase_self]
    split_ifs <;> rfl
  obtain ⟨host, hhost⟩ := hthere id (mem_hosts_of_hostFor hid)
  apply leads_prepareImage_of_hostFor hthere hid hhost hbusy
  · intro e _
    refine ⟨⟨e, rfl⟩, ?_⟩
    rw [Scene.image?, Scene.hosts_setHost_self]
    exact hmissing host
  · intro image himage
    rw [hmissing] at himage
    cases himage

/-- The usual settings, but with the name of the helper for a base tag. -/
def Settings.misnamed : Settings :=
  { image := { baseTag := "helper" } }

/-- The usual environment, but with the name of the helper for a base tag. -/
def Environment.misnamed : Environment :=
  { usual with image := Settings.misnamed.image }

/-- A machine with nothing but the base image of that environment. -/
def misnamedWorld : World Cluster :=
  .start [(Memory.empty .localhost fun _ _ => {}).addImage Environment.misnamed.image.base] []

/-- The environment with the name of the helper for a base tag passes the checks, and a single
experiment removes its base image. -/
theorem Benchmark.not_baseImage_behindUses_misnamed :
  Environment.ofSettings .misnamed = .ok .misnamed
    ∧ misnamedWorld.scene.image? .localhost Environment.misnamed.image.base = some 1
    ∧ (behindUses ⟨.misnamed, ⟨[.localhost]⟩⟩ [(.point ⟨0, 1, 2, 1, 0⟩, none)]
        misnamedWorld).scene.image? .localhost Environment.misnamed.image.base = none
  := by
  refine ⟨rfl, ?_, ?_⟩
  · decide +kernel
  · decide +kernel

end JoinBench
