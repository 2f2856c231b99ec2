import JoinBench.Benchmark
import JoinBench.Proofs.Lifecycle.Operations

/-!
# What an experiment should yield

What the units of an experiment leave is a matter of what their hosts do on the launch request of
each, and what the experiment should yield is a matter of what its units leave.  Nothing here
mentions earlier units, images or the states of roles.
-/

namespace JoinBench

open Host

/-- The sources of an experiment, in order. -/
def Point.sources (point : Point) : List Role :=
  (List.range point.nSources).map Role.source

/-- The names of the sources of an experiment, in order. -/
def Point.sourceIds (point : Point) : List RoleId :=
  point.sources.map Role.id

namespace Environment

/-- The host of a role, whichever experiment it is part of. -/
def hostOf (env : Environment) : Role → HostId
  | .source i => (env.sourceHosts[i % env.sourceHosts.length]?).getD env.helperHost
  | .helper => env.helperHost
  | .receiver => env.receiverHost

/-- The request that launches a role with a command line. -/
def specOf (env : Environment) (role : Role) (commandLine : String) : LaunchSpec where
  image := ⟨env.image.repository, role.id.text⟩
  name := role.id.text
  command := env.unitShell ++ [commandLine]
  labels := [env.containerLabel]
  detach := true

end Environment

namespace Benchmark

variable (b : Benchmark) (results : HostId → LaunchSpec → UnitResult) (point : Point)

/-! ### What units leave -/

/-- What the unit of a role leaves when it is launched with a command of the experiment. -/
def leaves (template : String) (flags : UnitFlags) (role : Role) : UnitResult :=
  results (b.env.hostOf role)
    (b.env.specOf role
      (Manager.lineOf (Command.render template point.sourceIds point) flags role))

/-- What the unit that generates the data of a source leaves. -/
def generated (role : Role) : UnitResult :=
  b.leaves results point b.env.commands.generate .none role

/-- What the helper leaves. -/
def helped : UnitResult :=
  b.leaves results point b.env.commands.helper
    { UnitFlags.none with sources := some point.sourceIds, nRows := some point.setSize } .helper

/-- What the receiver leaves. -/
def received : UnitResult :=
  b.leaves results point b.env.commands.receiver
    { UnitFlags.none with
      helperAddress := some b.env.helperAddress, sources := some point.sourceIds } .receiver

/-- What the unit that runs the protocol for a source leaves. -/
def served (role : Role) : UnitResult :=
  b.leaves results point b.env.commands.source
    { UnitFlags.none with
      helperAddress := some b.env.helperAddress, nCpu := some b.env.nCpuPerSource } role

/-! ### The verdict -/

/-- The data of all sources is generated. -/
def generation : Except Error Unit := do
  let _ ← point.sources.mapM fun role => Manager.success role (b.generated results point role)
  return ()

/-- The receiver and all sources succeed. -/
def protocol : Except Error Unit := do
  Manager.success .receiver (b.received results point)
  let _ ← point.sources.mapM fun role => Manager.success role (b.served results point role)
  return ()

/-- The receiver printed the expected result. -/
def comparison : Except Error Unit := do
  let expected ←
    Experiment.expectedResult point.sourceIds point.setSize point.joinSize point.seed
  verify expected (receivedRows (b.received results point).stdout)

/-- The statistics of a unit under the name of its role. -/
def withStats (found : List (String × Option Json)) (unit : Role × UnitResult) :
    List (String × Option Json) :=
  Json.put unit.1.id.text (Statistics.collect unit.1.id unit.2.stderr).2 found

/-- The record of the experiment. -/
def record : ResultRecord where
  nSources := point.nSources
  setSize := point.setSize
  joinSize := point.joinSize
  rep := point.rep
  nodesStats :=
    [(.source 0, b.served results point (.source 0)), (.helper, b.helped results point),
      (.receiver, b.received results point)].foldl withStats []

/-- What the experiment should yield under a manager. -/
def verdictUnder (m : Manager) : Except Error ResultRecord := do
  let _ ← m.topology.roles.mapM m.hostFor
  b.generation results point
  b.protocol results point
  b.comparison results point
  return b.record results point

/-- What the experiment should yield. -/
def verdict : Except Error ResultRecord := do
  let m ← b.manager point.nSources
  b.verdictUnder results point m

/-! ### The manager of an experiment -/

variable {b point}

/-- The manager of an experiment works with the parts of the environment. -/
structure Manages (b : Benchmark) (point : Point) (m : Manager) : Prop where
  fabric_eq : m.fabric = b.fabric
  image_eq : m.image = b.env.image
  label_eq : m.label = b.env.containerLabel
  sources_eq : m.topology.sources = point.sources
  sources_ne : point.sources ≠ []
  specOf_eq : ∀ (role : Role) (line : String), m.launchSpec role line = b.env.specOf role line
  hostFor_eq : ∀ {role : Role}, role ∈ m.topology.roles →
    m.hostFor role = m.fabric.host (b.env.hostOf role)

theorem manages_of_manager {m : Manager} (h : b.manager point.nSources = .ok m) :
  b.Manages point m
  := by
  rw [manager] at h
  cases hresolve : Topology.resolve point.nSources b.env.sourceHosts b.env.helperHost
      b.env.receiverHost with
  | error e =>
      rw [hresolve] at h
      cases h
  | ok topology =>
      rw [hresolve] at h
      cases h
      rw [Topology.resolve] at hresolve
      split_ifs at hresolve with hpool hparties
      cases hresolve
      have hlength : (Topology.placeSources point.nSources b.env.sourceHosts hpool).length
        = point.nSources := by
        simp [Topology.placeSources]
      constructor
      · rfl
      · rfl
      · rfl
      · rw [Topology.sources, hlength, Point.sources]
      · simpa [Point.sources] using hparties
      · intro role line
        rfl
      · intro role hrole
        cases role with
        | helper | receiver => rfl
        | source i =>
            have hi : i < point.nSources := by
              simpa [Topology.roles, Topology.sources, hlength] using hrole
            have hpos := List.length_pos_iff.mpr hpool
            simp [Manager.hostFor, Topology.hostOf, Topology.placeSources, hi,
              Environment.hostOf, Nat.mod_lt i hpos]
            rfl

end Benchmark

end JoinBench
