import JoinBench.Proofs.Lifecycle.Outcomes
import Mathlib.Data.Set.Insert

/-!
# Attempts to launch a role

Over any layer a launch either ends before the host is asked, with nothing changed, or its result is
the answer to a single request.  Where this is an error the role has its former state again, so that
only the hosts can make the next attempt different.  Hosts in memory do not: a launch there fails
just if something is in its way, and leaves names, images and all that is in the way as they were.
-/

namespace JoinBench

open Host

variable {τ : Type}

/-- The names that the units of hosts have, and the images behind their tags. -/
structure Shelves (ι : Type) where
  names : HostId → Set String
  images : HostId → ImageRef → Option ι

/-- A further name on a host. -/
def Shelves.add {ι : Type} (s : Shelves ι) (id : HostId) (name : String) : Shelves ι :=
  { s with names := Function.update s.names id (insert name (s.names id)) }

/-- The state of a role behind a launch, whose answer may be missing. -/
def UnitState.behindLaunch (previous : UnitState) : Option (Except Error UnitHandle) → UnitState
  | none => .launching
  | some (.error _) => previous
  | some (.ok unit) => .running unit

namespace Manager

variable {m : Manager} {role : Role} {command : String} {flags : UnitFlags} {e : Error}

/-! ### Any layer -/

section Layers

variable {layer : Layer τ} {w w' : World τ}

/-- The host that is asked to launch a role, where the role has a state that admits it. -/
def launchHost (m : Manager) (role : Role) (state : UnitState) : Except Error HostId :=
  match m.hostFor role with
  | .error e => .error e
  | .ok id =>
    if state.canLaunch then .ok id else .error (.lifecycle role.id (.notLaunchable state))

theorem launchHost_eq_ok {state : UnitState} {id : HostId} :
  m.launchHost role state = .ok id ↔ m.hostFor role = .ok id ∧ state.canLaunch = true
  := by
  rw [launchHost]
  cases m.hostFor role <;> cases state.canLaunch <;> simp

/-- Without a host to ask nothing happens. -/
theorem run_runRole_of_error (h : m.launchHost role (w.states role) = .error e) :
  World.run layer (m.runRole role command flags) w = (some (.error e), w)
  := by
  rw [launchHost] at h
  rw [runRole, UnitFlags.render_id]
  cases hid : m.hostFor role with
  | error e' =>
      rw [hid] at h
      cases h
      rfl
  | ok id =>
      cases hcan : (w.states role).canLaunch with
      | true =>
          rw [hid, hcan] at h
          cases h
      | false =>
          rw [hid, hcan] at h
          cases h
          simp only [World.run, Program.ofExcept, bind, Program.bind, Job.stateOf, Job.perform,
            Program.run, World.handler, hcan]
          rfl

theorem run_launch (layer : Layer τ) (id : HostId) (spec : LaunchSpec) (w : World τ) :
  Program.run (World.handler layer) (Job.launch id spec) w
    = ((layer id (.launch spec) w.hosts).1,
      { w with hosts := (layer id (.launch spec) w.hosts).2 })
  := by
  simp only [Job.launch, Job.perform, bind, Program.bind, Program.run, World.handler]
  generalize layer id (.launch spec) w.hosts = answer
  obtain ⟨x, hosts⟩ := answer
  cases x with
  | none => rfl
  | some result => cases result <;> rfl

/-- With a host to ask the result is its answer, and the role gets the state that belongs to it. -/
theorem exists_run_runRole {id : HostId} {x : Option (Except Error UnitHandle)} {hosts : τ}
    (h : m.launchHost role (w.states role) = .ok id)
    (hlayer : layer id (.launch (m.specFor command flags role)) w.hosts = (x, hosts)) :
  ∃ w', World.run layer (m.runRole role command flags) w = (x, w') ∧ w'.hosts = hosts
    ∧ w'.states = Function.update w.states role ((w.states role).behindLaunch x)
  := by
  obtain ⟨hid, hcan⟩ := launchHost_eq_ok.mp h
  rw [specFor, lineOf] at hlayer
  rw [runRole, UnitFlags.render_id, hid]
  simp only [World.run, Program.ofExcept, bind, Program.bind, Job.stateOf, Job.perform,
    Program.run, World.handler, hcan, Bool.not_true, Bool.false_eq_true, if_false, Job.setState,
    Job.log, World.setState, Program.run_bind, Program.run_attempt, run_launch, hlayer]
  have hstates : ∀ state : UnitState, (fun r => if r = role then state else w.states r)
      = Function.update w.states role state :=
    fun state => funext fun r => (Function.update_apply _ _ _ r).symm
  have hagain : ∀ state : UnitState,
      (fun r => if r = role then state else if r = role then .launching else w.states r)
        = Function.update w.states role state := by
    intro state
    rw [← hstates]
    funext r
    split_ifs <;> rfl
  cases x with
  | none => exact ⟨_, rfl, rfl, hstates _⟩
  | some result =>
      cases result with
      | error e => exact ⟨_, rfl, rfl, hagain _⟩
      | ok unit => exact ⟨_, rfl, rfl, hagain _⟩

/-- A launch that fails leaves the states as they were; no host was asked, or the error is the
answer of the one that was. -/
theorem of_run_runRole_eq_error
    (h : World.run layer (m.runRole role command flags) w = (some (.error e), w')) :
  w'.states = w.states ∧ ((∃ e, m.launchHost role (w.states role) = .error e) ∧ w' = w
    ∨ ∃ id, m.launchHost role (w.states role) = .ok id
      ∧ layer id (.launch (m.specFor command flags role)) w.hosts = (some (.error e), w'.hosts))
  := by
  cases hid : m.launchHost role (w.states role) with
  | error e' =>
      rw [run_runRole_of_error hid] at h
      cases h
      exact ⟨rfl, .inl ⟨⟨_, rfl⟩, rfl⟩⟩
  | ok id =>
      cases hlayer : layer id (.launch (m.specFor command flags role)) w.hosts with
      | mk x hosts =>
          obtain ⟨w'', hrun, rfl, hstates⟩ := exists_run_runRole hid hlayer
          rw [hrun] at h
          cases h
          refine ⟨?_, .inr ⟨id, rfl, hlayer⟩⟩
          rw [hstates]
          exact Function.update_eq_self _ _

/-- A launch succeeds just if there is a host to ask and this answers with a unit. -/
theorem exists_run_runRole_eq_ok_iff :
  (∃ unit w', World.run layer (m.runRole role command flags) w = (some (.ok unit), w'))
    ↔ ∃ id unit hosts, m.launchHost role (w.states role) = .ok id
      ∧ layer id (.launch (m.specFor command flags role)) w.hosts = (some (.ok unit), hosts)
  := by
  constructor
  · rintro ⟨unit, w', hrun⟩
    cases hid : m.launchHost role (w.states role) with
    | error e =>
        rw [run_runRole_of_error hid] at hrun
        cases hrun
    | ok id =>
        cases hlayer : layer id (.launch (m.specFor command flags role)) w.hosts with
        | mk x hosts =>
            obtain ⟨w'', hrun', -, -⟩ := exists_run_runRole hid hlayer
            rw [hrun'] at hrun
            cases hrun
            exact ⟨id, unit, hosts, rfl, hlayer⟩
  · rintro ⟨id, unit, hosts, hid, hlayer⟩
    obtain ⟨w', hrun, -, -⟩ := exists_run_runRole hid hlayer
    exact ⟨unit, w', hrun⟩

end Layers

end Manager

/-! ### Hosts in memory -/

/-- The names and the images of hosts in memory. -/
def Scene.shelves (sc : Scene) : Shelves Nat where
  names id := {name | ∃ host, sc.hosts id = some host ∧ host.hasName name = true}
  images id image := (sc.hosts id).bind (·.images[image]?)

namespace Host

variable {host : Memory} {spec : LaunchSpec} {id : HostId} {cluster cluster' : Cluster}

theorem Memory.exists_launch_eq_ok_iff :
  (∃ unit, (host.launch spec).1 = .ok unit)
    ↔ host.isDown = false ∧ spec.image ∈ host.images ∧ host.hasName spec.name = false
  := by
  constructor
  · rintro ⟨unit, hlaunch⟩
    have hup : host.isDown = false := by
      rw [Bool.eq_false_iff]
      intro hdown
      have hdown : isDown { host with requested := spec :: host.requested } = true := hdown
      simp only [launch, hdown, if_true] at hlaunch
      cases hlaunch
    obtain ⟨e, herror⟩ | ⟨himage, hname, -⟩ := host.launch_cases spec
    · rw [herror] at hlaunch
      cases hlaunch
    · exact ⟨hup, himage, hname⟩
  · rintro ⟨hup, himage, hname⟩
    rw [Memory.launch_eq_ok hup himage hname]
    exact ⟨_, rfl⟩

/-- A launch is answered by the host of the name, if there is one. -/
theorem Cluster.layer_launch_cases (id : HostId) (spec : LaunchSpec) (cluster : Cluster) :
  host? id cluster = none ∧ layer id (.launch spec) cluster = (none, cluster)
    ∨ ∃ host cluster', host? id cluster = some host
      ∧ layer id (.launch spec) cluster = (some (host.launch spec).1, cluster')
      ∧ (fun i => host? i cluster')
        = Function.update (fun i => host? i cluster) id (some (host.launch spec).2)
  := by
  cases hhost : host? id cluster with
  | none =>
      refine .inl ⟨rfl, ?_⟩
      simp only [layer, answer?_of_host?_eq_none _ hhost]
  | some host =>
      obtain ⟨cluster', hanswer, hhosts⟩ := answer?_of_host? (.launch spec) hhost
      refine .inr ⟨host, cluster', rfl, ?_, hhosts⟩
      simp only [layer, hanswer]
      rfl

/-- A host in memory that refuses a launch only takes note of the request. -/
theorem Cluster.layer_launch_eq_error {e : Error}
    (h : layer id (.launch spec) cluster = (some (.error e), cluster')) :
  ∃ host, host? id cluster = some host
    ∧ (fun i => host? i cluster')
      = Function.update (fun i => host? i cluster) id (some (host.withRequest spec))
  := by
  obtain ⟨-, hlayer⟩ | ⟨host, cluster'', hhost, hlayer, hhosts⟩ :=
    layer_launch_cases id spec cluster
  · cases hlayer.symm.trans h
  · obtain ⟨hresult, rfl⟩ := Prod.mk.inj (hlayer.symm.trans h)
    use host, hhost
    obtain ⟨e', hlaunch⟩ | ⟨-, -, hlaunch⟩ := host.launch_cases spec
    · rw [hhosts, hlaunch]
    · rw [hlaunch] at hresult
      cases hresult

theorem Cluster.exists_layer_launch_eq_ok_iff :
  (∃ unit cluster', layer id (.launch spec) cluster = (some (.ok unit), cluster'))
    ↔ ∃ host, host? id cluster = some host ∧ host.isDown = false ∧ spec.image ∈ host.images
      ∧ host.hasName spec.name = false
  := by
  obtain ⟨hnone, hlayer⟩ | ⟨host, cluster', hhost, hlayer, -⟩ := layer_launch_cases id spec cluster
  · simp [hnone, hlayer]
  · rw [hlayer, hhost]
    constructor
    · rintro ⟨unit, cluster'', h⟩
      have hresult := Option.some_inj.mp (Prod.mk.inj h).1
      exact ⟨host, rfl, Memory.exists_launch_eq_ok_iff.mp ⟨unit, hresult⟩⟩
    · rintro ⟨found, hfound, hfree⟩
      obtain rfl := Option.some_inj.mp hfound
      obtain ⟨unit, hresult⟩ := Memory.exists_launch_eq_ok_iff.mpr hfree
      rw [hresult]
      exact ⟨unit, cluster', rfl⟩

end Host

namespace Scene

variable {sc : Scene} {id : HostId} {host : Memory} {spec : LaunchSpec}

/-- What does not depend on the requests holds of the same hosts behind a refused one. -/
theorem exists_hosts_withRequest_iff {P : Memory → Prop} (hhost : sc.hosts id = some host)
    (hP : P (host.withRequest spec) ↔ P host) (other : HostId) :
  (∃ found, (sc.setHost id (host.withRequest spec)).hosts other = some found ∧ P found)
    ↔ ∃ found, sc.hosts other = some found ∧ P found
  := by
  rw [hosts_setHost]
  by_cases hother : other = id
  · subst hother
    rw [Function.update_self, hhost]
    simpa using hP
  · rw [Function.update_of_ne hother]

theorem hosts_setHost_eq_none_iff (hhost : sc.hosts id = some host) {new : Memory}
    (other : HostId) :
  (sc.setHost id new).hosts other = none ↔ sc.hosts other = none
  := by
  rw [hosts_setHost]
  by_cases hother : other = id
  · subst hother
    simp [hhost]
  · rw [Function.update_of_ne hother]

theorem shelves_setHost_withRequest (hhost : sc.hosts id = some host) :
  (sc.setHost id (host.withRequest spec)).shelves = sc.shelves
  := by
  rw [shelves, shelves, Shelves.mk.injEq]
  constructor
  · funext other
    ext name
    exact exists_hosts_withRequest_iff hhost Iff.rfl other
  · funext other image
    rw [hosts_setHost]
    by_cases hother : other = id
    · subst hother
      rw [Function.update_self, hhost]
      rfl
    · rw [Function.update_of_ne hother]

end Scene

/-- What may be in the way of launching a role on hosts in memory. -/
inductive Obstacle where
  /-- The role has no host, or none of the fabric. -/
  | unplaced
  /-- The role has no image that is free for a unit. -/
  | notLaunchable
  /-- There is no host of the name. -/
  | absent
  | down
  | noImage
  | nameTaken

/-- The role is placed on a host with a property. -/
def Manager.IsOnHost (m : Manager) (role : Role) (sc : Scene) (P : Memory → Prop) : Prop :=
  ∃ id, m.hostFor role = .ok id ∧ ∃ host, sc.hosts id = some host ∧ P host

/-- Whether something is in the way. -/
def Obstacle.Stands (m : Manager) (role : Role) (sc : Scene) : Obstacle → Prop
  | unplaced => ∃ e, m.hostFor role = .error e
  | notLaunchable => (sc.states role).canLaunch = false
  | absent => ∃ id, m.hostFor role = .ok id ∧ sc.hosts id = none
  | down => m.IsOnHost role sc fun host => host.isDown = true
  | noImage => m.IsOnHost role sc fun host => m.checkpoint role ∉ host.images
  | nameTaken => m.IsOnHost role sc fun host => host.hasName role.id.text = true

namespace Manager

variable {m : Manager} {role : Role} {command : String} {flags : UnitFlags} {e : Error}
  {w w' : World Cluster}

/-- A launch that fails leaves the scene as it is, but for a host that takes note of the request. -/
theorem scene_of_run_runRole_eq_error
    (h : World.run Cluster.layer (m.runRole role command flags) w = (some (.error e), w')) :
  w'.scene = w.scene
    ∨ ∃ id host, w.scene.hosts id = some host
      ∧ w'.scene = w.scene.setHost id (host.withRequest (m.specFor command flags role))
  := by
  obtain ⟨hstates, ⟨-, rfl⟩ | ⟨id, -, hlayer⟩⟩ := of_run_runRole_eq_error h
  · exact .inl rfl
  · obtain ⟨host, hhost, hhosts⟩ := Cluster.layer_launch_eq_error hlayer
    refine .inr ⟨id, host, hhost, ?_⟩
    rw [World.scene, hhosts, hstates]
    rfl

theorem states_of_run_runRole_eq_error
    (h : World.run Cluster.layer (m.runRole role command flags) w = (some (.error e), w')) :
  w'.scene.states = w.scene.states ∧ w'.scene.shelves = w.scene.shelves
  := by
  obtain hscene | ⟨id, host, hhost, hscene⟩ := scene_of_run_runRole_eq_error h
  · rw [hscene]
    exact ⟨rfl, rfl⟩
  · rw [hscene]
    exact ⟨rfl, Scene.shelves_setHost_withRequest hhost⟩

/-- A launch that fails leaves all that is in the way as it was. -/
theorem stands_iff_of_run_runRole_eq_error
    (h : World.run Cluster.layer (m.runRole role command flags) w = (some (.error e), w'))
    (o : Obstacle) :
  o.Stands m role w'.scene ↔ o.Stands m role w.scene
  := by
  obtain hscene | ⟨id, host, hhost, hscene⟩ := scene_of_run_runRole_eq_error h
  · rw [hscene]
  · rw [hscene]
    cases o with
    | unplaced | notLaunchable => exact Iff.rfl
    | absent =>
        exact exists_congr fun other =>
          and_congr_right' (Scene.hosts_setHost_eq_none_iff hhost other)
    | down | noImage | nameTaken =>
        exact exists_congr fun other =>
          and_congr_right' (Scene.exists_hosts_withRequest_iff hhost Iff.rfl other)

/-- A launch on hosts in memory succeeds just if nothing is in the way. -/
theorem exists_run_runRole_eq_ok_iff_not_stands :
  (∃ unit w', World.run Cluster.layer (m.runRole role command flags) w = (some (.ok unit), w'))
    ↔ ∀ o : Obstacle, ¬ o.Stands m role w.scene
  := by
  rw [exists_run_runRole_eq_ok_iff]
  constructor
  · rintro ⟨id, unit, hosts, hid, hlayer⟩
    obtain ⟨hid, hcan⟩ := launchHost_eq_ok.mp hid
    obtain ⟨host, hhost, hup, himage, hname⟩ :=
      Cluster.exists_layer_launch_eq_ok_iff.mp ⟨unit, hosts, hlayer⟩
    have hon : ∀ {P : Memory → Prop}, m.IsOnHost role w.scene P → P host := by
      rintro P ⟨other, hother, found, hfound, hP⟩
      obtain rfl := Except.ok.inj (hid.symm.trans hother)
      obtain rfl := Option.some_inj.mp (hhost.symm.trans hfound)
      exact hP
    intro o hstands
    cases o with
    | unplaced =>
        obtain ⟨e, he⟩ := hstands
        cases hid.symm.trans he
    | notLaunchable => cases hcan.symm.trans hstands
    | absent =>
        obtain ⟨other, hother, hnone⟩ := hstands
        obtain rfl := Except.ok.inj (hid.symm.trans hother)
        cases hhost.symm.trans hnone
    | down => cases hup.symm.trans (hon hstands)
    | noImage => exact hon hstands himage
    | nameTaken => cases hname.symm.trans (hon hstands)
  · intro h
    cases hid : m.hostFor role with
    | error e => exact absurd ⟨e, hid⟩ (h .unplaced)
    | ok id =>
        have hcan : (w.states role).canLaunch = true := by
          rw [← Bool.not_eq_false]
          exact h .notLaunchable
        cases hhost : w.scene.hosts id with
        | none => exact absurd ⟨id, hid, hhost⟩ (h .absent)
        | some host =>
            have hup : host.isDown = false := by
              rw [← Bool.not_eq_true]
              exact fun hdown => h .down ⟨id, hid, host, hhost, hdown⟩
            have himage : (m.specFor command flags role).image ∈ host.images :=
              not_not.mp fun hmissing => h .noImage ⟨id, hid, host, hhost, hmissing⟩
            have hname : host.hasName (m.specFor command flags role).name = false := by
              rw [← Bool.not_eq_true]
              exact fun htaken => h .nameTaken ⟨id, hid, host, hhost, htaken⟩
            obtain ⟨unit, hosts, hlayer⟩ :=
              Cluster.exists_layer_launch_eq_ok_iff.mpr ⟨host, hhost, hup, himage, hname⟩
            exact ⟨id, unit, hosts, launchHost_eq_ok.mpr ⟨hid, hcan⟩, hlayer⟩

end Manager

end JoinBench
