import JoinBench.Proofs.Host.Cluster
import JoinBench.Proofs.Program.Outlook
import JoinBench.World

/-!
# Jobs on a scene

Of the surroundings of a run over hosts in memory a job only gets to see the hosts and the
states of the roles, apart from the time, which it only writes to the log.  They are the scene.
`Scene.Leads sc job Q` says that the job, run without an interrupt in any surroundings with the
scene `sc`, ends, and that its result and the scene behind it satisfy `Q`.
-/

namespace JoinBench

/-- The hosts and the states of the roles. -/
structure Scene where
  hosts : HostId → Option Host.Memory
  states : Role → UnitState

namespace Scene

/-- The scene with another host under a name. -/
def setHost (sc : Scene) (id : HostId) (host : Host.Memory) : Scene :=
  { sc with hosts := Function.update sc.hosts id (some host) }

/-- The scene with another state of a role. -/
def setState (sc : Scene) (role : Role) (state : UnitState) : Scene :=
  { sc with states := Function.update sc.states role state }

@[simp]
theorem hosts_setState (sc : Scene) (role : Role) (state : UnitState) :
  (sc.setState role state).hosts = sc.hosts
  := rfl

@[simp]
theorem states_setHost (sc : Scene) (id : HostId) (host : Host.Memory) :
  (sc.setHost id host).states = sc.states
  := rfl

@[simp]
theorem hosts_setHost (sc : Scene) (id : HostId) (host : Host.Memory) :
  (sc.setHost id host).hosts = Function.update sc.hosts id (some host)
  := rfl

@[simp]
theorem states_setState (sc : Scene) (role : Role) (state : UnitState) :
  (sc.setState role state).states = Function.update sc.states role state
  := rfl

theorem hosts_setHost_self (sc : Scene) (id : HostId) (host : Host.Memory) :
  (sc.setHost id host).hosts id = some host
  := by
  rw [hosts_setHost, Function.update_self]

/-- A host of the scene with another host is this host, or was there before. -/
theorem hosts_setHost_cases {sc : Scene} {id other : HostId} {host found : Host.Memory}
    (h : (sc.setHost id host).hosts other = some found) :
  other = id ∧ found = host ∨ other ≠ id ∧ sc.hosts other = some found
  := by
  rw [hosts_setHost] at h
  by_cases heq : other = id
  · rw [heq, Function.update_self] at h
    exact .inl ⟨heq, (Option.some_inj.mp h).symm⟩
  · rw [Function.update_of_ne heq] at h
    exact .inr ⟨heq, h⟩

theorem setHost_eq_self {sc : Scene} {id : HostId} {host : Host.Memory}
    (h : sc.hosts id = some host) :
  sc.setHost id host = sc
  := by
  rw [setHost, ← h, Function.update_eq_self]

@[simp]
theorem setHost_setHost (sc : Scene) (id : HostId) (host host' : Host.Memory) :
  (sc.setHost id host).setHost id host' = sc.setHost id host'
  := by
  simp [setHost]

@[simp]
theorem setState_setHost_setState (sc : Scene) (id : HostId) (host : Host.Memory) (role : Role)
    (state state' : UnitState) :
  ((sc.setState role state).setHost id host).setState role state'
    = (sc.setHost id host).setState role state'
  := by
  simp [setHost, setState]

end Scene

/-- The scene of some surroundings. -/
def World.scene (w : World Host.Cluster) : Scene :=
  ⟨fun id => Host.Cluster.host? id w.hosts, w.states⟩

theorem World.scene_setState (w : World Host.Cluster) (role : Role) (state : UnitState) :
  (w.setState role state).scene = w.scene.setState role state
  := by
  simp only [World.scene, World.setState, Scene.setState, Scene.mk.injEq, true_and]
  funext other
  rw [Function.update_apply]

/-- The surroundings in which the job is run. -/
abbrev World.answering : Handler Action.interface (World Host.Cluster) :=
  World.handler Host.Cluster.layer

/-- A request to a host that is there is answered by that host, and changes nothing else. -/
theorem World.exists_answering_ask {w : World Host.Cluster} {id : HostId} {host : Host.Memory}
    (hhost : w.scene.hosts id = some host) (request : Host.Request) :
  ∃ hosts, World.answering (.ask id request) w
      = (some (host.answer request).1, { w with hosts := hosts })
    ∧ World.scene { w with hosts := hosts } = w.scene.setHost id (host.answer request).2
  := by
  obtain ⟨hosts, hanswer, hview⟩ := Host.Cluster.answer?_of_host? request hhost
  use hosts
  constructor
  · simp only [World.handler, Host.Cluster.layer, hanswer]
  · simp only [World.scene, hview, Scene.setHost]

/-- A request to a host that is not there is never answered. -/
theorem World.answering_ask_eq_none {w : World Host.Cluster} {id : HostId}
    (hhost : w.scene.hosts id = none) (request : Host.Request) :
  World.answering (.ask id request) w = (none, w)
  := by
  simp only [World.handler, Host.Cluster.layer,
    Host.Cluster.answer?_of_host?_eq_none request hhost]

namespace Scene

variable {sc : Scene} {α β : Type}

/-- In any surroundings with the scene the job ends, and its result and the scene behind it
satisfy `Q`. -/
def Leads (sc : Scene) (job : Job α) (Q : Except Error α → Scene → Prop) : Prop :=
  ∀ w : World Host.Cluster, w.scene = sc → w.deadline = none →
    Program.Ends World.answering job w fun r w' => w'.deadline = none ∧ Q r w'.scene

/-- What has to hold of a result for the rest of a job to lead to `Q`. -/
def Then (f : α → Job β) (Q : Except Error β → Scene → Prop) : Except Error α → Scene → Prop
  | .ok a, sc => sc.Leads (f a) Q
  | .error e, sc => Q (.error e) sc

/-- The hosts and the states of the roles are what is seen of the surroundings, and the fine ones
are those without an interrupt. -/
def outlook : Outlook Action.interface (World Host.Cluster) Scene where
  handle := World.answering
  see := World.scene
  fine := fun w => w.deadline = none

/-! ### One rule for each way of making a job -/

theorem Leads.mono {job : Job α} {Q Q' : Except Error α → Scene → Prop}
    (h : sc.Leads job Q) (hQ : ∀ r sc', Q r sc' → Q' r sc') :
  sc.Leads job Q'
  := Program.Leads.mono (o := outlook) h hQ

theorem leads_pure {a : α} {Q : Except Error α → Scene → Prop} (h : Q (.ok a) sc) :
  sc.Leads (pure a) Q
  := Program.leads_pure (o := outlook) h

theorem leads_throw {e : Error} {Q : Except Error α → Scene → Prop} (h : Q (.error e) sc) :
  sc.Leads (throw e) Q
  := Program.leads_throw (o := outlook) h

theorem leads_ofExcept {r : Except Error α} {Q : Except Error α → Scene → Prop} (h : Q r sc) :
  sc.Leads (.ofExcept r) Q
  := Program.leads_ofExcept (o := outlook) h

theorem leads_bind {job : Job α} {f : α → Job β} {Q : Except Error β → Scene → Prop}
    (h : sc.Leads job (Then f Q)) :
  sc.Leads (job >>= f) Q
  := by
  apply Program.leads_bind (o := outlook)
  apply Program.Leads.mono (o := outlook) h
  rintro (e | a) sc' hq
  · exact hq
  · exact hq

theorem leads_attempt {job : Job α} {Q : Except Error (Except Error α) → Scene → Prop}
    (h : sc.Leads job fun r => Q (.ok r)) :
  sc.Leads job.attempt Q
  := Program.leads_attempt (o := outlook) h

theorem leads_all {jobs : List (Job α)} {Q : Except Error (List α) → Scene → Prop}
    (h : sc.Leads (Program.sequence jobs) Q) :
  sc.Leads (Program.all jobs) Q
  := Program.leads_all (o := outlook) h

/-- Jobs that leave the scene as it is do so one after the other. -/
theorem leads_forEach {f : β → Job Unit} {items : List β}
    (hf : ∀ x {Q : Except Error Unit → Scene → Prop}, Q (.ok ()) sc → sc.Leads (f x) Q)
    {Q : Except Error Unit → Scene → Prop} (h : Q (.ok ()) sc) :
  sc.Leads (Program.forEach f items) Q
  := Program.leads_forEach (o := outlook) hf h

/-- What holds from one scene to the next of the parts of a job holds of the whole. -/
theorem leads_forEach_of_forall (Rel : Scene → Scene → Prop)
    (hrefl : ∀ sc sc', Rel sc sc' → Rel sc' sc')
    (htrans : ∀ sc sc' sc'', Rel sc sc' → Rel sc' sc'' → Rel sc sc'') {f : β → Job Unit}
    {items : List β}
    (hitems : ∀ x ∈ items, ∀ sc, Rel sc sc → sc.Leads (f x) fun _ sc' => Rel sc sc')
    (hsc : Rel sc sc) :
  sc.Leads (Program.forEach f items) fun _ sc' => Rel sc sc'
  := Program.leads_forEach_of_forall (o := outlook) Rel hrefl htrans hitems hsc

/-- What holds from one scene to the next of jobs that yield values which stay good holds of the
whole group. -/
theorem leads_all_of_forall (Rel : Scene → Scene → Prop) (Good : α → Scene → Prop)
    (hrefl : ∀ sc sc', Rel sc sc' → Rel sc' sc')
    (htrans : ∀ sc sc' sc'', Rel sc sc' → Rel sc' sc'' → Rel sc sc'')
    (hgood : ∀ a sc sc', Good a sc → Rel sc sc' → Good a sc') {jobs : List (Job α)}
    (hjobs : ∀ job ∈ jobs, ∀ sc, Rel sc sc →
      sc.Leads job fun r sc' => Rel sc sc' ∧ ∀ a, r = .ok a → Good a sc')
    (hsc : Rel sc sc) :
  sc.Leads (Program.all jobs) fun r sc' => Rel sc sc' ∧ ∀ as, r = .ok as → ∀ a ∈ as, Good a sc'
  := Program.leads_all_of_forall (o := outlook) Rel Good hrefl htrans hgood hjobs hsc

/-- A check that passes. -/
theorem leads_check {c : Prop} [Decidable c] (hc : ¬ c) {e : Error} {next : PUnit → Job α}
    {Q : Except Error α → Scene → Prop} (h : sc.Leads (next ⟨⟩) Q) :
  sc.Leads (if c then throw e >>= next else next ⟨⟩) Q
  := Program.leads_check (o := outlook) hc h

/-! ### One rule for each action -/

theorem leads_perform {action : Action} {Q : Except Error action.Answer → Scene → Prop}
    (h : ∀ w : World Host.Cluster, w.scene = sc → w.deadline = none →
      ∃ x w', World.answering action w = (some x, w') ∧ w'.deadline = none
        ∧ Q (.ok x) w'.scene) :
  sc.Leads (Job.perform action) Q
  := by
  intro w hw hd
  obtain ⟨x, w', hanswer, hd', hq⟩ := h w hw hd
  rw [Job.perform, Program.ends_call hanswer, Program.ends_done]
  use hd', hq

theorem leads_perform_log {line : LogLine} {Q : Except Error Unit → Scene → Prop}
    (h : Q (.ok ()) sc) :
  sc.Leads (Job.perform (.log line)) Q
  := by
  apply leads_perform
  rintro w rfl hd
  use (), { w with log := line :: w.log }, rfl, hd, h

theorem leads_log {level : Level} {message : String} {Q : Except Error Unit → Scene → Prop}
    (h : Q (.ok ()) sc) :
  sc.Leads (Job.log level message) Q
  := leads_perform_log h

theorem leads_echo {message : String} {Q : Except Error Unit → Scene → Prop}
    (h : Q (.ok ()) sc) :
  sc.Leads (Job.echo message) Q
  := leads_perform_log h

theorem leads_now {Q : Except Error Nat → Scene → Prop} (h : ∀ ms, Q (.ok ms) sc) :
  sc.Leads Job.now Q
  := by
  apply leads_perform
  rintro w rfl hd
  use w.clock, w, rfl, hd, h w.clock

theorem leads_pause {ms : Nat} {Q : Except Error Unit → Scene → Prop} (h : Q (.ok ()) sc) :
  sc.Leads (Job.pause ms) Q
  := by
  apply leads_perform
  rintro w rfl hd
  use (), { w with clock := w.clock + ms }
  constructor
  · simp only [World.handler, World.pause, hd]
  · use hd, h

theorem leads_stateOf {role : Role} {Q : Except Error UnitState → Scene → Prop}
    (h : Q (.ok (sc.states role)) sc) :
  sc.Leads (Job.stateOf role) Q
  := by
  apply leads_perform
  rintro w rfl hd
  use w.states role, w, rfl, hd, h

theorem leads_setState {role : Role} {state : UnitState} {Q : Except Error Unit → Scene → Prop}
    (h : Q (.ok ()) (sc.setState role state)) :
  sc.Leads (Job.setState role state) Q
  := by
  apply leads_perform
  rintro w rfl hd
  use (), w.setState role state, rfl, hd
  rw [World.scene_setState]
  exact h

theorem leads_forgetStates {Q : Except Error Unit → Scene → Prop}
    (h : Q (.ok ()) { sc with states := fun _ => .noImage }) :
  sc.Leads Job.forgetStates Q
  := by
  apply leads_perform
  rintro w rfl hd
  use (), { w with states := fun _ => .noImage }, rfl, hd, h

/-- A request is answered by the host of its name. -/
theorem leads_ask {id : HostId} {host : Host.Memory} (hhost : sc.hosts id = some host)
    {request : Host.Request} {Q : Except Error request.Answer → Scene → Prop}
    (h : Q (.ok (host.answer request).1) (sc.setHost id (host.answer request).2)) :
  sc.Leads (Job.perform (.ask id request)) Q
  := by
  apply leads_perform
  rintro w rfl hd
  obtain ⟨hosts, hanswer, hscene⟩ := World.exists_answering_ask hhost request
  use (host.answer request).1, { w with hosts := hosts }, hanswer, hd
  rw [hscene]
  exact h

/-! ### One rule for each request -/

section Requests

variable {id : HostId} {host : Host.Memory}

theorem leads_list (hhost : sc.hosts id = some host) (hup : host.isDown = false)
    {label : String} {Q : Except Error (List UnitRef) → Scene → Prop}
    (h : Q (.ok (host.labelled label)) sc) :
  sc.Leads (Job.list id label) Q
  := by
  apply leads_bind
  apply leads_ask hhost
  apply leads_ofExcept
  simpa only [Host.Memory.answer, hup, Bool.false_eq_true, if_false, setHost_eq_self hhost]
    using h

theorem leads_wait (hhost : sc.hosts id = some host) {unit : UnitHandle} {u : Host.KeptUnit}
    (hunit : host.units[unit.unitId]? = some u) {Q : Except Error Int → Scene → Prop}
    (h : Q (.ok u.result.status) sc) :
  sc.Leads (Job.wait id unit) Q
  := by
  apply leads_bind
  apply leads_ask hhost
  apply leads_ofExcept
  simpa only [Host.Memory.answer, hunit, setHost_eq_self hhost] using h

theorem leads_logs (hhost : sc.hosts id = some host) {unit : UnitHandle} {u : Host.KeptUnit}
    (hunit : host.units[unit.unitId]? = some u) {select : LogSelect}
    {Q : Except Error String → Scene → Prop}
    (h : Q (.ok (Host.Memory.output select u.result)) sc) :
  sc.Leads (Job.logs id unit select) Q
  := by
  apply leads_bind
  apply leads_ask hhost
  apply leads_ofExcept
  simpa only [Host.Memory.answer, hunit, setHost_eq_self hhost] using h

theorem leads_follow (hhost : sc.hosts id = some host) {unit : UnitHandle} {u : Host.KeptUnit}
    (hunit : host.units[unit.unitId]? = some u)
    {Q : Except Error (List (Except Error String)) → Scene → Prop}
    (h : Q (.ok (Host.Memory.pieces u.result)) sc) :
  sc.Leads (Job.follow id unit) Q
  := by
  apply leads_ask hhost
  simpa only [Host.Memory.answer, hunit, setHost_eq_self hhost] using h

theorem leads_remove (hhost : sc.hosts id = some host) {unitId : String} {force : Bool}
    {Q : Except Error Unit → Scene → Prop}
    (h : Q (.ok ()) (sc.setHost id { host with units := host.units.erase unitId })) :
  sc.Leads (Job.remove id unitId force) Q
  := by
  apply leads_bind
  apply leads_ask hhost
  apply leads_ofExcept h

theorem leads_tag (hhost : sc.hosts id = some host) {source target : ImageRef} {image : Nat}
    (himage : host.images[source]? = some image) {Q : Except Error Unit → Scene → Prop}
    (h : Q (.ok ()) (sc.setHost id { host with images := host.images.insert target image })) :
  sc.Leads (Job.tag id source target) Q
  := by
  apply leads_bind
  apply leads_ask hhost
  apply leads_ofExcept
  simpa only [Host.Memory.answer, himage] using h

/-- An image that is not there cannot be tagged. -/
theorem leads_tag_of_eq_none (hhost : sc.hosts id = some host) {source target : ImageRef}
    (himage : host.images[source]? = none) {Q : Except Error Unit → Scene → Prop}
    (h : ∀ e, Q (.error e) sc) :
  sc.Leads (Job.tag id source target) Q
  := by
  apply leads_bind
  apply leads_ask hhost
  apply leads_ofExcept
  simp only [Host.Memory.answer, himage, setHost_eq_self hhost]
  apply h

theorem leads_removeImage (hhost : sc.hosts id = some host) {image : ImageRef}
    {Q : Except Error Unit → Scene → Prop}
    (h : Q (.ok ()) (sc.setHost id { host with images := host.images.erase image })) :
  sc.Leads (Job.removeImage id image) Q
  := by
  apply leads_bind
  apply leads_ask hhost
  apply leads_ofExcept h

end Requests

end Scene

end JoinBench
