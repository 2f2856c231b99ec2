import JoinBench.Proofs.Docker.Daemon
import JoinBench.Proofs.Lifecycle.Invariant

/-!
# Launching a role again

Hosts in memory let a launch that has failed be tried again: it left nothing behind, and succeeds
once all that is in the way is gone.  A docker daemon does so only as long as it creates no
container.  One that was created keeps the name of the role, which has its former state again and
so knows nothing of it.
-/

namespace JoinBench.Manager

open Docker (Berth Daemon Launches)
open Host Manager.Session

variable {m : Manager} {role : Role} {command : String} {flags : UnitFlags} {e : Error}

/-! ### Hosts behind daemons -/

section Daemons

variable {δ : Type} {d : Daemon δ} {w w' : World (HostId → δ)}

/-- A launch that fails leaves the states as they were; no host was asked, or one is left with what
its daemon leaves. -/
theorem leaves_of_run_runRole_eq_error
    (h : World.run d.layer (m.runRole role command flags) w = (some (.error e), w')) :
  w'.states = w.states ∧ ((∃ e, m.launchHost role (w.states role) = .error e) ∧ w' = w
    ∨ ∃ id, m.launchHost role (w.states role) = .ok id
      ∧ d.Leaves (m.specFor command flags role) id w.hosts w'.hosts)
  := by
  obtain ⟨hstates, hnone | ⟨id, hid, hlayer⟩⟩ := of_run_runRole_eq_error h
  · exact ⟨hstates, .inl hnone⟩
  · exact ⟨hstates, .inr ⟨id, hid, Daemon.leaves_of_layer_eq_error rfl hlayer⟩⟩

theorem exists_run_runRole_eq_ok_iff_launches :
  (∃ unit w', World.run d.layer (m.runRole role command flags) w = (some (.ok unit), w'))
    ↔ ∃ id, m.launchHost role (w.states role) = .ok id
      ∧ Launches d.handle (m.specFor command flags role) (w.hosts id)
  := by
  rw [exists_run_runRole_eq_ok_iff]
  constructor
  · rintro ⟨id, unit, hosts, hid, hlayer⟩
    exact ⟨id, hid, (Daemon.exists_layer_launch_eq_ok_iff rfl).mp ⟨unit, hosts, hlayer⟩⟩
  · rintro ⟨id, hid, hlaunches⟩
    obtain ⟨unit, hosts, hlayer⟩ := (Daemon.exists_layer_launch_eq_ok_iff rfl).mpr hlaunches
    exact ⟨id, unit, hosts, hid, hlayer⟩

/-- As long as the name of a role is taken no launch of it succeeds. -/
theorem not_exists_run_runRole_eq_ok {id : HostId} (hid : m.hostFor role = .ok id)
    (hname : role.id.text ∈ d.names (w.hosts id)) :
  ¬ ∃ unit w', World.run d.layer (m.runRole role command flags) w = (some (.ok unit), w')
  := by
  rw [exists_run_runRole_eq_ok_iff_launches]
  rintro ⟨other, hother, hlaunches⟩
  obtain rfl := Except.ok.inj (hid.symm.trans (launchHost_eq_ok.mp hother).1)
  exact Daemon.not_launches_of_mem_names hname hlaunches

end Daemons

/-! ### Machines that cannot start a container -/

/-- The launch of the receiver. -/
def receive : Job UnitHandle :=
  lone.runRole .receiver "receive" .none

/-- A machine that has gone down when its images were there. -/
def downed : World Cluster :=
  ((start loneHosts).run lone [.operate .prepareImages, .goDown .localhost 0]).world

/-- Machines with nothing but the base image, which cannot start a container. -/
def unable : World (HostId → Berth) :=
  .start (fun _ => ⟨none, [lone.image.base], false⟩) []

/-- The same when their images are there. -/
def prepared : World (HostId → Berth) :=
  (World.run Berth.daemon.layer lone.prepareImages unable).2

/-- The same when the launch has been attempted. -/
def attempted : World (HostId → Berth) :=
  (World.run Berth.daemon.layer receive prepared).2

/-- The same surroundings, where containers can be started. -/
def repaired (w : World (HostId → Berth)) : World (HostId → Berth) :=
  { w with hosts := fun id => { w.hosts id with isAble := true } }

theorem states_repaired (w : World (HostId → Berth)) :
  (repaired w).states = w.states
  := rfl

theorem hosts_repaired (w : World (HostId → Berth)) (id : HostId) :
  (repaired w).hosts id = { w.hosts id with isAble := true }
  := rfl

theorem names_repaired (w : World (HostId → Berth)) (id : HostId) :
  Berth.daemon.names ((repaired w).hosts id) = Berth.daemon.names (w.hosts id)
  := rfl

/-- The daemon of the machine whose images are there. -/
def stocked (isAble : Bool) : Berth :=
  ⟨none, lone.topology.roles.reverse.map lone.checkpoint ++ [lone.image.base], isAble⟩

theorem run_prepareImages_unable :
  (World.run Berth.daemon.layer lone.prepareImages unable).1 = some (.ok ())
    ∧ prepared.states .receiver = .baseImage ∧ prepared.hosts .localhost = stocked false
  := by decide +kernel

theorem launchHost_prepared :
  lone.launchHost .receiver (prepared.states .receiver) = .ok .localhost
  := by
  rw [run_prepareImages_unable.2.1]
  rfl

theorem creates_prepared :
  Berth.daemon.Creates (lone.specFor "receive" .none .receiver) (prepared.hosts .localhost)
  := by
  refine ⟨Berth.created, Berth.unitId, ?_, Berth.createdBy_created⟩
  rw [run_prepareImages_unable.2.2]
  decide +kernel

/-- The error of a container that is not started. -/
def unstarted : Error :=
  .runtime .localhost .start "Docker responded with status code 500: "

theorem run_receive_prepared :
  World.run Berth.daemon.layer receive prepared = (some (.error unstarted), attempted)
  := by
  have hlaunch : Program.run Berth.daemon.handle
      (Docker.launch .localhost (lone.specFor "receive" .none .receiver)) (stocked false)
        = (some (.error unstarted), { stocked false with name? := some "receiver" }) := by
    decide +kernel
  rw [← run_prepareImages_unable.2.2] at hlaunch
  obtain ⟨w', hrun, -, -⟩ := exists_run_runRole launchHost_prepared (Daemon.layer_launch hlaunch)
  rw [attempted, receive, hrun]

/-! ### Launches that fail -/

/-- A launch that fails leaves the states of the roles as they were.  Hosts in memory keep their
names and images, and all that is in the way is what was in the way before; a launch succeeds just
if nothing is.  Hosts behind daemons keep them as well, unless the daemon created the container:
then this stays behind under the name of the role, and no launch succeeds as long as the name is
taken. -/
theorem run_runRole_spec (m : Manager) (role : Role) (command : String) (flags : UnitFlags) :
  (∀ (w w' : World Cluster) (e : Error),
    World.run Cluster.layer (m.runRole role command flags) w = (some (.error e), w') →
      w'.states = w.states ∧ w'.scene.shelves = w.scene.shelves
        ∧ ∀ o : Obstacle, o.Stands m role w'.scene ↔ o.Stands m role w.scene)
  ∧ (∀ w : World Cluster,
    (∃ unit w', World.run Cluster.layer (m.runRole role command flags) w = (some (.ok unit), w'))
      ↔ ∀ o : Obstacle, ¬ o.Stands m role w.scene)
  ∧ ∀ (δ : Type) (d : Daemon δ),
    (∀ (w w' : World (HostId → δ)) (e : Error),
      World.run d.layer (m.runRole role command flags) w = (some (.error e), w') →
        w'.states = w.states ∧ ((∃ e, m.launchHost role (w.states role) = .error e) ∧ w' = w
          ∨ ∃ id, m.launchHost role (w.states role) = .ok id
            ∧ d.Leaves (m.specFor command flags role) id w.hosts w'.hosts))
    ∧ ∀ w : World (HostId → δ),
      ((∃ unit w', World.run d.layer (m.runRole role command flags) w = (some (.ok unit), w'))
        ↔ ∃ id, m.launchHost role (w.states role) = .ok id
          ∧ Launches d.handle (m.specFor command flags role) (w.hosts id))
      ∧ ∀ id, m.hostFor role = .ok id → role.id.text ∈ d.names (w.hosts id) →
        ¬ ∃ unit w', World.run d.layer (m.runRole role command flags) w = (some (.ok unit), w')
  := by
  refine ⟨fun w w' e h => ?_, fun w => exists_run_runRole_eq_ok_iff_not_stands,
    fun δ d => ⟨fun w w' e h => leaves_of_run_runRole_eq_error h, fun w => ⟨?_, ?_⟩⟩⟩
  · obtain ⟨hstates, hshelves⟩ := states_of_run_runRole_eq_error h
    exact ⟨hstates, hshelves, stands_iff_of_run_runRole_eq_error h⟩
  · exact exists_run_runRole_eq_ok_iff_launches
  · exact fun id hid hname => not_exists_run_runRole_eq_ok hid hname

theorem run_runRole_spec_receiver :
  (∃ w', World.run Cluster.layer receive downed
        = (some (.error (.connection .localhost "connection refused")), w')
      ∧ w'.states = downed.states ∧ w'.scene.shelves = downed.scene.shelves
      ∧ ∀ o : Obstacle, o.Stands lone .receiver w'.scene ↔ o.Stands lone .receiver downed.scene)
    ∧ attempted.states = prepared.states
    ∧ Berth.daemon.LeavesBehind .localhost "receiver" prepared.hosts attempted.hosts
    ∧ ¬ ∃ unit w', World.run Berth.daemon.layer receive attempted = (some (.ok unit), w')
  := by
  obtain ⟨hmemory, -, hdaemons⟩ := run_runRole_spec lone .receiver "receive" .none
  obtain ⟨hfailed, hlaunches⟩ := hdaemons Berth Berth.daemon
  have hdowned : (World.run Cluster.layer receive downed).1
      = some (.error (.connection .localhost "connection refused")) := by
    decide +kernel
  refine ⟨?_, ?_⟩
  · cases hrun : World.run Cluster.layer receive downed with
    | mk x w' =>
        rw [hrun] at hdowned
        obtain rfl := hdowned
        exact ⟨w', rfl, hmemory _ _ _ hrun⟩
  · obtain ⟨hstates, ⟨⟨e, herror⟩, -⟩ | ⟨id, hid, hleaves⟩⟩ := hfailed _ _ _ run_receive_prepared
    · cases launchHost_prepared.symm.trans herror
    · obtain rfl := Except.ok.inj (launchHost_prepared.symm.trans hid)
      have hbehind := hleaves.leavesBehind creates_prepared
      exact ⟨hstates, hbehind, (hlaunches attempted).2 .localhost rfl hbehind.mem_names⟩

/-- Machines that could start no container can launch the receiver once they can, but not behind an
attempt to launch it before: its container is there, under its name, and nothing knows of it. -/
theorem exists_leavesBehind_run_runRole :
  (World.run Berth.daemon.layer lone.prepareImages unable).1 = some (.ok ())
    ∧ (∃ e, World.run Berth.daemon.layer receive prepared = (some (.error e), attempted))
    ∧ attempted.states = prepared.states
    ∧ Berth.daemon.LeavesBehind .localhost "receiver" prepared.hosts attempted.hosts
    ∧ (∃ unit w', World.run Berth.daemon.layer receive (repaired prepared) = (some (.ok unit), w'))
    ∧ ¬ ∃ unit w', World.run Berth.daemon.layer receive (repaired attempted)
      = (some (.ok unit), w')
  := by
  obtain ⟨hstates, ⟨⟨e, herror⟩, -⟩ | ⟨id, hid, hleaves⟩⟩ :=
    leaves_of_run_runRole_eq_error run_receive_prepared
  · cases launchHost_prepared.symm.trans herror
  · obtain rfl := Except.ok.inj (launchHost_prepared.symm.trans hid)
    have hbehind := hleaves.leavesBehind creates_prepared
    have hlaunch : Program.run Berth.daemon.handle
        (Docker.launch .localhost (lone.specFor "receive" .none .receiver)) (stocked true)
          = (some (.ok ⟨.localhost, "c1", ⟨"receiver"⟩⟩),
            { stocked true with name? := some "receiver" }) := by
      decide +kernel
    refine ⟨run_prepareImages_unable.1, ⟨_, run_receive_prepared⟩, hstates, hbehind, ?_, ?_⟩
    · rw [receive, exists_run_runRole_eq_ok_iff_launches, states_repaired]
      refine ⟨.localhost, launchHost_prepared, ?_⟩
      rw [hosts_repaired, run_prepareImages_unable.2.2]
      exact (Docker.exists_run_launch_eq_ok_iff rfl .localhost).mp ⟨_, _, hlaunch⟩
    · apply not_exists_run_runRole_eq_ok (launchHost_eq_ok.mp launchHost_prepared).1
      rw [names_repaired]
      exact hbehind.mem_names

end JoinBench.Manager
