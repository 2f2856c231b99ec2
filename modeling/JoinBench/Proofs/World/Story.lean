import JoinBench.Proofs.Program.Calls
import JoinBench.Proofs.Program.Record
import JoinBench.Proofs.World.Scene

/-!
# What a job does to hosts

The deeds of a job are the units that it asks hosts to launch and the units that it makes images
of, each with the images as they were at that moment.  A story is a scene together with the deeds
that led to it.  Jobs that neither launch nor commit only move the scene, so what they lead to on a
scene they lead to in any story.
-/

namespace JoinBench

open Host

/-! ### Deeds -/

/-- A launch request that a host answered. -/
structure Launch where
  host : HostId
  spec : LaunchSpec
  /-- The image behind the tag that the request names. -/
  image : Option Nat
  answer : Except Error UnitHandle

/-- A unit that a host made an image of. -/
structure Commit where
  host : HostId
  unit : UnitHandle
  /-- The exit status of the unit. -/
  status : Int
  target : ImageRef
  /-- The image behind the target afterwards. -/
  image : Option Nat

/-- A launch or a commit. -/
inductive Deed where
  | launched (launch : Launch)
  | committed (commit : Commit)

namespace Deed

/-- What an action on a scene does, if it is a deed. -/
def of? : Action → Scene → Option Deed
  | .ask id (.launch spec), sc =>
    (sc.hosts id).map fun host =>
      launched ⟨id, spec, host.images[spec.image]?, (host.launch spec).1⟩
  | .ask id (.commit unit target), sc =>
    (sc.hosts id).bind fun host =>
      (host.units[unit.unitId]?).map fun u =>
        committed ⟨id, unit, u.result.status, target, (host.addImage target).images[target]?⟩
  | _, _ => none

/-- The deeds among some actions, each with the surroundings that it met. -/
def ofCalls (calls : List (Action × World Cluster)) : List Deed :=
  calls.filterMap fun call => of? call.1 call.2.scene

end Deed

/-- The action is neither a launch nor a commit. -/
def Action.IsQuiet : Action → Prop
  | ask _ (.launch _) => False
  | ask _ (.commit _ _) => False
  | _ => True

theorem Deed.of?_eq_none {action : Action} (h : action.IsQuiet) (sc : Scene) :
  Deed.of? action sc = none
  := by
  cases action with
  | ask id request =>
      cases request with
      | launch | commit => cases h
      | list | wait | logs | follow | remove | tag | removeImage => rfl
  | stateOf | setState | forgetStates | log | pause | now | emit => rfl

/-- The deeds of a job, in order. -/
def World.deeds {α : Type} (job : Job α) (w : World Cluster) : List Deed :=
  Deed.ofCalls (job.calls World.answering w)

/-! ### Stories -/

/-- A scene and the deeds that led to it. -/
structure Story where
  scene : Scene
  deeds : List Deed

namespace Story

variable {st : Story} {α β : Type}

/-- The story with another host under a name. -/
def setHost (st : Story) (id : HostId) (host : Memory) : Story :=
  { st with scene := st.scene.setHost id host }

/-- The story with another state of a role. -/
def setState (st : Story) (role : Role) (state : UnitState) : Story :=
  { st with scene := st.scene.setState role state }

/-- The story with a further deed. -/
def add (st : Story) (deed : Deed) : Story :=
  { st with deeds := st.deeds ++ [deed] }

theorem setHost_setHost (st : Story) (id : HostId) (host host' : Memory) :
  (st.setHost id host).setHost id host' = st.setHost id host'
  := by
  simp [setHost]

theorem setHost_add (st : Story) (id : HostId) (host : Memory) (deed : Deed) :
  (st.add deed).setHost id host = (st.setHost id host).add deed
  := rfl

theorem hosts_setHost_self (st : Story) (id : HostId) (host : Memory) :
  (st.setHost id host).scene.hosts id = some host
  := Scene.hosts_setHost_self st.scene id host

theorem hosts_add_setHost_self (st : Story) (id : HostId) (host : Memory) (deed : Deed) :
  ((st.setHost id host).add deed).scene.hosts id = some host
  := hosts_setHost_self st id host

/-- Of two states that a role gets one after the other the later one counts. -/
theorem setState_add_setHost_setState (st : Story) (role : Role) (state state' : UnitState)
    (id : HostId) (host : Memory) (deed : Deed) :
  (((st.setState role state).setHost id host).add deed).setState role state'
    = ((st.setHost id host).add deed).setState role state'
  := by
  simp [setState, setHost, add]

/-- A role that gets back the state that it had is as it was. -/
theorem setState_states (st : Story) (role : Role) :
  st.setState role (st.scene.states role) = st
  := by
  simp [setState, Scene.setState]

/-- The scene and the deeds so far are what is seen of a run. -/
def outlook : Outlook Action.interface (List (Action × World Cluster) × World Cluster) Story where
  handle := World.answering.recording
  see := fun s => ⟨s.2.scene, Deed.ofCalls s.1⟩
  fine := fun s => s.2.deadline = none

/-- In any surroundings with the scene of the story the job ends, and its result and the story
behind it satisfy `Q`. -/
abbrev Goes (st : Story) (job : Job α) (Q : Except Error α → Story → Prop) : Prop :=
  Program.Leads outlook st job Q

/-! ### Stories and scenes -/

/-- A job that goes somewhere from the start of a story is run to there. -/
theorem exists_run_of_goes {w : World Cluster} (hd : w.deadline = none) {job : Job α}
    {Q : Except Error α → Story → Prop} (h : (Story.mk w.scene []).Goes job Q) :
  ∃ r w', World.run Cluster.layer job w = (some r, w') ∧ w'.deadline = none
    ∧ Q r ⟨w'.scene, w.deeds job⟩
  := by
  obtain ⟨r, ⟨calls, w'⟩, hrun, hd', hq⟩ := h ([], w) rfl hd
  have hrecord : Program.run World.answering.recording job ([], w) = _ :=
    Program.run_recording job [] w
  rw [List.nil_append] at hrecord
  have heq := hrecord.symm.trans hrun
  simp only [Prod.mk.injEq] at heq
  obtain ⟨hresult, rfl, rfl⟩ := heq
  exact ⟨r, _, Prod.ext hresult rfl, hd', hq⟩

/-- What a job leads to in a story it leads to on the scene of the story. -/
theorem leads_of_goes {sc : Scene} {job : Job α} {Q : Except Error α → Scene → Prop}
    (h : (Story.mk sc []).Goes job fun r st => Q r st.scene) :
  sc.Leads job Q
  := by
  rintro w rfl hd
  obtain ⟨r, w', hrun, hd', hq⟩ := exists_run_of_goes hd h
  exact ⟨r, w', hrun, hd', hq⟩

/-- What a job leads to on a scene it leads to in a story; its deeds are those of its calls. -/
theorem goes_of_leads_of_calls {job : Job α} {deeds : List Deed}
    (hdeeds : ∀ w : World Cluster, w.scene = st.scene → w.deadline = none → w.deeds job = deeds)
    {Q : Except Error α → Story → Prop}
    (h : st.scene.Leads job fun r sc => Q r ⟨sc, st.deeds ++ deeds⟩) :
  st.Goes job Q
  := by
  rintro ⟨calls, w⟩ rfl hd
  obtain ⟨r, w', hrun, hd', hq⟩ := h w rfl hd
  have hrecord : Program.run World.answering.recording job (calls, w) = _ :=
    Program.run_recording job calls w
  rw [hrun] at hrecord
  refine ⟨r, _, hrecord, hd', ?_⟩
  have hcalls : Deed.ofCalls (calls ++ job.calls World.answering w)
      = Deed.ofCalls calls ++ w.deeds job := List.filterMap_append
  rw [← hdeeds w rfl hd] at hq
  simp only [outlook, hcalls]
  exact hq

/-- A job that neither launches nor commits has no deeds. -/
theorem deeds_eq_nil {job : Job α} (h : job.Makes Action.IsQuiet) (w : World Cluster) :
  w.deeds job = []
  := by
  have hkeeps : ∀ (action : Action.interface.Call)
      (s : List (Action × World Cluster) × World Cluster),
      action.IsQuiet → Deed.ofCalls s.1 = [] →
        Deed.ofCalls (World.answering.recording action s).2.1 = [] := by
    intro action s haction hs
    simp only [Handler.recording, Deed.ofCalls, List.filterMap_append, List.filterMap_cons,
      List.filterMap_nil, Deed.of?_eq_none haction, List.append_nil]
    exact hs
  exact Program.run_keeps (s := ([], w)) hkeeps h rfl

/-- What a job that neither launches nor commits leads to on the scene of a story, it leads to in
the story. -/
theorem goes_of_leads {job : Job α} (hquiet : job.Makes Action.IsQuiet)
    {Q : Except Error α → Story → Prop}
    (h : st.scene.Leads job fun r sc => Q r { st with scene := sc }) :
  st.Goes job Q
  := by
  apply goes_of_leads_of_calls (fun w _ _ => deeds_eq_nil hquiet w)
  rw [List.append_nil]
  exact h

/-! ### One rule for each action -/

theorem goes_perform {action : Action} (hquiet : action.IsQuiet)
    {Q : Except Error action.Answer → Story → Prop}
    (h : st.scene.Leads (Job.perform action) fun r sc => Q r { st with scene := sc }) :
  st.Goes (Job.perform action) Q
  := by
  apply goes_of_leads _ h
  exact ⟨hquiet, fun _ => trivial⟩

theorem goes_log {level : Level} {message : String} {Q : Except Error Unit → Story → Prop}
    (h : Q (.ok ()) st) :
  st.Goes (Job.log level message) Q
  := by
  apply goes_perform
  · trivial
  · exact Scene.leads_log h

theorem goes_now {Q : Except Error Nat → Story → Prop} (h : ∀ ms, Q (.ok ms) st) :
  st.Goes Job.now Q
  := by
  apply goes_perform
  · trivial
  · exact Scene.leads_now h

theorem goes_pause {ms : Nat} {Q : Except Error Unit → Story → Prop} (h : Q (.ok ()) st) :
  st.Goes (Job.pause ms) Q
  := by
  apply goes_perform
  · trivial
  · exact Scene.leads_pause h

theorem goes_forgetStates {Q : Except Error Unit → Story → Prop}
    (h : Q (.ok ()) { st with scene := { st.scene with states := fun _ => .noImage } }) :
  st.Goes Job.forgetStates Q
  := by
  apply goes_perform
  · trivial
  · exact Scene.leads_forgetStates h

theorem goes_stateOf {role : Role} {Q : Except Error UnitState → Story → Prop}
    (h : Q (.ok (st.scene.states role)) st) :
  st.Goes (Job.stateOf role) Q
  := by
  apply goes_perform
  · trivial
  · exact Scene.leads_stateOf h

theorem goes_setState {role : Role} {state : UnitState} {Q : Except Error Unit → Story → Prop}
    (h : Q (.ok ()) (st.setState role state)) :
  st.Goes (Job.setState role state) Q
  := by
  apply goes_perform
  · trivial
  · exact Scene.leads_setState h

section Requests

variable {id : HostId} {host : Memory} {request : Request} {f : request.Answer → Except Error α}

/-- A request is its only call. -/
theorem deeds_ask (w : World Cluster) :
  w.deeds (Job.perform (.ask id request) >>= fun x => .ofExcept (f x) : Job α)
    = (Deed.of? (.ask id request) w.scene).toList
  := by
  have hnone : ∀ (r : Except Error α) (w : World Cluster),
      (Program.ofExcept r : Job α).calls World.answering w = [] := by
    intro r w
    cases r <;> rfl
  have hcalls : (Job.perform (.ask id request) >>= fun x => .ofExcept (f x) : Job α).calls
      World.answering w = _ :=
    Program.calls_call (I := Action.interface) (Action.ask id request) (fun x => .ofExcept (f x)) w
  have hone : Deed.ofCalls [(Action.ask id request, w)]
      = (Deed.of? (.ask id request) w.scene).toList := by
    rw [Deed.ofCalls, List.filterMap_cons, List.filterMap_nil]
    cases Deed.of? (.ask id request) w.scene <;> rfl
  rw [World.deeds, hcalls, ← hone]
  cases World.answering (Action.ask id request) w with
  | mk x w' =>
      cases x with
      | none => rfl
      | some x => simp only [hnone]

/-- A request is answered by the host of its name, and is added to the deeds if it is one. -/
theorem goes_ask (hhost : st.scene.hosts id = some host) {Q : Except Error α → Story → Prop}
    (h : Q (f (host.answer request).1)
      ⟨st.scene.setHost id (host.answer request).2,
        st.deeds ++ (Deed.of? (.ask id request) st.scene).toList⟩) :
  st.Goes (Job.perform (.ask id request) >>= fun x => .ofExcept (f x)) Q
  := by
  apply goes_of_leads_of_calls
  · rintro w hw -
    rw [deeds_ask, hw]
  · apply Scene.leads_bind
    apply Scene.leads_ask hhost
    rw [Scene.Then]
    apply Scene.leads_ofExcept
    exact h

theorem goes_ask_quiet (hhost : st.scene.hosts id = some host)
    (hquiet : (Action.ask id request).IsQuiet) {Q : Except Error α → Story → Prop}
    (h : Q (f (host.answer request).1) (st.setHost id (host.answer request).2)) :
  st.Goes (Job.perform (.ask id request) >>= fun x => .ofExcept (f x)) Q
  := by
  apply goes_ask hhost
  rw [Deed.of?_eq_none hquiet, Option.toList_none, List.append_nil]
  exact h

end Requests

variable {id : HostId} {host : Memory}

theorem goes_launch (hhost : st.scene.hosts id = some host) {spec : LaunchSpec}
    {Q : Except Error UnitHandle → Story → Prop}
    (h : Q (host.launch spec).1 ((st.setHost id (host.launch spec).2).add
      (.launched ⟨id, spec, host.images[spec.image]?, (host.launch spec).1⟩))) :
  st.Goes (Job.launch id spec) Q
  := by
  apply goes_ask hhost
  rw [Deed.of?, hhost]
  exact h

theorem goes_commit (hhost : st.scene.hosts id = some host) {unit : UnitHandle} {u : KeptUnit}
    (hunit : host.units[unit.unitId]? = some u) {target : ImageRef}
    {Q : Except Error Unit → Story → Prop}
    (h : Q (.ok ()) ((st.setHost id (host.addImage target)).add
      (.committed ⟨id, unit, u.result.status, target, (host.addImage target).images[target]?⟩))) :
  st.Goes (Job.commit id unit target) Q
  := by
  have hmem : host.units.contains unit.unitId = true := by
    rw [Std.ExtTreeMap.contains_eq_isSome_getElem?, hunit]
    rfl
  apply goes_ask hhost
  simp only [Memory.answer, hmem, if_true, Deed.of?, hhost, Option.bind_some, hunit]
  exact h

theorem goes_remove (hhost : st.scene.hosts id = some host) {unitId : String} {force : Bool}
    {Q : Except Error Unit → Story → Prop}
    (h : Q (.ok ()) (st.setHost id { host with units := host.units.erase unitId })) :
  st.Goes (Job.remove id unitId force) Q
  := by
  apply goes_ask_quiet hhost
  · trivial
  · exact h

theorem goes_tag (hhost : st.scene.hosts id = some host) {source target : ImageRef} {image : Nat}
    (himage : host.images[source]? = some image) {Q : Except Error Unit → Story → Prop}
    (h : Q (.ok ()) (st.setHost id { host with images := host.images.insert target image })) :
  st.Goes (Job.tag id source target) Q
  := by
  apply goes_ask_quiet hhost
  · trivial
  · simp only [Memory.answer, himage]
    exact h

/-- An image that is not there cannot be tagged. -/
theorem goes_tag_of_eq_none (hhost : st.scene.hosts id = some host) {source target : ImageRef}
    (himage : host.images[source]? = none) {Q : Except Error Unit → Story → Prop}
    (h : ∀ e, Q (.error e) st) :
  st.Goes (Job.tag id source target) Q
  := by
  apply goes_ask_quiet hhost
  · trivial
  · simp only [Memory.answer, himage, setHost, Scene.setHost_eq_self hhost]
    apply h

theorem goes_removeImage (hhost : st.scene.hosts id = some host) {image : ImageRef}
    {Q : Except Error Unit → Story → Prop}
    (h : Q (.ok ()) (st.setHost id { host with images := host.images.erase image })) :
  st.Goes (Job.removeImage id image) Q
  := by
  apply goes_ask_quiet hhost
  · trivial
  · exact h

end Story

end JoinBench
