import JoinBench.Command
import JoinBench.Interrupt
import JoinBench.Json.Shown
import JoinBench.Lifecycle.Manager
import JoinBench.Oracle.Experiment
import JoinBench.Statistics

/-!
# Running experiments

An experiment goes through phases: the hosts are cleaned and the images put back, the sources
generate their data and are checkpointed, the helper starts, the receiver and the sources run
the protocol, and what the receiver printed is compared with the expected result.  A grid is run
point by point; an error that only spoils its experiment abandons that point.
-/

namespace JoinBench

/-- What experiments run on. -/
structure Benchmark where
  env : Environment
  fabric : Fabric
deriving DecidableEq, Inhabited, Repr

/-- What became of a grid. -/
structure GridSummary where
  /-- The number of records that were written. -/
  completed : Nat
  /-- The numbers of the abandoned points. -/
  abandoned : List Nat
deriving DecidableEq, Inhabited, Repr

/-- How a run ended. -/
inductive RunOutcome where
  | finished (summary : GridSummary)
  | interrupted (kind : InterruptKind)
deriving DecidableEq, Inhabited, Repr

/-! ### What the log says -/

/-- Seconds with three decimal places. -/
def secondsText (ms : Nat) : String :=
  let places := (ms % 1000).repr
  (ms / 1000).repr ++ "." ++ String.ofList (List.replicate (3 - places.length) '0') ++ places

/-- The statistics of the units in the log. -/
def statsShown (stats : List (String × Option Json)) : String :=
  let one (m : String × Option Json) := Text.quoted m.1 ++ ": " ++
    match m.2 with
    | some value => "Some(" ++ value.shown ++ ")"
    | none => "None"
  "\x7b" ++ String.intercalate ", " (stats.map one) ++ "\x7d"

/-- Repeats the output of the helper in the log until it ends or fails. -/
def echoPieces : List (Except Error String) → Job Unit
  | [] => return ()
  | .error e :: _ => Job.log .warn ("Helper output stream ended early: " ++ e.message)
  | .ok piece :: rest => do
    Program.forEach Job.echo (Text.lines piece)
    echoPieces rest

/-- Repeats the output of the helper in the log until it exits. -/
def echoHelper (m : Manager) (helper : UnitHandle) : Job Unit := do
  match ← (m.follow helper).attempt with
  | .error e => Job.log .warn ("Cannot follow helper output: " ++ e.message)
  | .ok pieces => echoPieces pieces

/-- The statistics of one unit. -/
def unitStats (m : Manager) (unit : UnitHandle) : Job (Option Json) := do
  match ← (m.logs unit .stderr).attempt with
  | .ok output =>
    let (lines, stats) := Statistics.collect unit.role output
    Program.forEach (fun line => Job.perform (.log line)) lines
    return stats
  | .error e =>
    Job.log .warn ("Could not read the logs of " ++ unit.display ++ ": " ++ e.message)
    return none

/-- The statistics of several units, in ascending order of their names. -/
def collectStats (m : Manager) : List UnitHandle → List (String × Option Json) →
  Job (List (String × Option Json))
  | [], found => return found
  | unit :: rest, found => do
    let stats ← unitStats m unit
    collectStats m rest (Json.put unit.role.text stats found)

namespace Benchmark

/-- The manager for an experiment with the given number of sources. -/
def manager (b : Benchmark) (nSources : Nat) : Except Error Manager :=
  (Topology.resolve nSources b.env.sourceHosts b.env.helperHost b.env.receiverHost).map
    fun topology => ⟨topology, b.fabric, b.env.image, b.env.containerLabel, b.env.unitShell⟩

/-! ### Phases -/

/-- Generates the data of every source and makes it part of the image of the source. -/
def generateData (b : Benchmark) (m : Manager) (point : Point) : Job Unit := do
  Job.log .info "Generating test data..."
  let command := Command.render b.env.commands.generate m.topology.sourceIds point
  let generators ← m.runAll command m.topology.sources .none
  m.commit generators
  Job.log .info "Data generated"

/-- Starts the helper and gives it time to listen. -/
def startHelper (b : Benchmark) (m : Manager) (point : Point) : Job UnitHandle := do
  Job.log .info "Starting helper..."
  let ids := m.topology.sourceIds
  let flags ← .ofExcept (UnitFlags.none.withSources ids)
  let command := Command.render b.env.commands.helper ids point
  let helper ← m.runRole .helper command (flags.withRows point.setSize)
  Job.pause b.env.helperStartupDelayMs
  return helper

/-- Starts the receiver. -/
def startReceiver (b : Benchmark) (m : Manager) (point : Point) : Job UnitHandle := do
  let ids := m.topology.sourceIds
  let flags ← .ofExcept ((UnitFlags.none.withHelperAddress b.env.helperAddress).withSources ids)
  m.runRole .receiver (Command.render b.env.commands.receiver ids point) flags

/-- Starts the sources. -/
def startSources (b : Benchmark) (m : Manager) (point : Point) : Job (List UnitHandle) :=
  let flags := (UnitFlags.none.withHelperAddress b.env.helperAddress).withCpu
    b.env.nCpuPerSource
  m.runAll (Command.render b.env.commands.source m.topology.sourceIds point)
    m.topology.sources flags

/-- Waits until the helper, the receiver and all sources are through. -/
def awaitResult (m : Manager) (helper receiver : UnitHandle) (sources : List UnitHandle)
  (started : Nat) : Job Unit := do
  echoHelper m helper
  let status ← m.wait helper
  if status ≠ 0 then
    Job.log .warn ("Helper exited with status " ++ String.ofList (Json.renderInt status))
  m.ensureSuccess receiver
  let ended ← Job.now
  Job.log .info
    ("Done in " ++ secondsText (ended - started) ++ " seconds, checking results...")
  let _ ← Program.all (sources.map m.ensureSuccess)

/-- Compares what the receiver printed with the expected result. -/
def checkResult (m : Manager) (point : Point) (receiver : UnitHandle) : Job Unit := do
  let observed := receivedRows (← m.logs receiver .stdout)
  let expected ← .ofExcept
    (Experiment.expectedResult m.topology.sourceIds point.setSize point.joinSize point.seed)
  match verify expected observed with
  | .ok () => Job.log .info "Result OK"
  | .error e =>
    Job.log .error ("Expected: " ++ Text.quotedSet expected.toList)
    Job.log .error ("Got: " ++ Text.quotedSet observed.toList)
    throw e

/-- Removes the units of a finished point, which nobody needs to inspect. -/
def cleanUp (m : Manager) (point : Point) : Job Unit := do
  match ← m.cleanAll.attempt with
  | .ok _ => return ()
  | .error e =>
    Job.log .warn
      ("Could not remove the units of point " ++ point.number.repr ++ ": " ++ e.message)

/-- Runs one experiment. -/
def runPoint (b : Benchmark) (point : Point) : Job ResultRecord := do
  let m ← .ofExcept (b.manager point.nSources)
  Job.forgetStates
  let _ ← m.cleanAll
  m.prepareImages
  Job.pause b.env.cleanupDelayMs
  b.generateData m point
  let helper ← b.startHelper m point
  Job.log .info "Running receiver and sources"
  let started ← Job.now
  let receiver ← b.startReceiver m point
  let sources ← b.startSources m point
  awaitResult m helper receiver sources started
  checkResult m point receiver
  let stats ← collectStats m (sources.take 1 ++ [helper, receiver]) []
  cleanUp m point
  return ⟨point.nSources, point.setSize, point.joinSize, point.rep, stats⟩

/-! ### Grids -/

/-- Runs points in order; `summary` tells of those before them, the abandoned ones in
reverse. -/
def runPoints (b : Benchmark) : List Point → (summary : GridSummary) → Job GridSummary
  | [], summary => return { summary with abandoned := summary.abandoned.reverse }
  | point :: rest, summary => do
    Job.log .info
      ("======= starting experiment #" ++ point.number.repr ++ " " ++ point.display
        ++ " =======")
    match ← (b.runPoint point).attempt with
    | .ok record =>
      Job.log .info
        ("Stats of experiment #" ++ point.number.repr ++ ": " ++ statsShown record.nodesStats)
      Job.emit record
      b.runPoints rest { summary with completed := summary.completed + 1 }
    | .error e =>
      if e.isPointScoped then
        Job.log .error ("Experiment #" ++ point.number.repr ++ " abandoned: " ++ e.message)
        b.runPoints rest { summary with abandoned := point.number :: summary.abandoned }
      else throw e

/-- Runs points in order and writes a record for each that completes. -/
def runGrid (b : Benchmark) (points : List Point) : Job GridSummary := do
  Job.log .info (points.length.repr ++ " experiments to run")
  let summary ← b.runPoints points ⟨0, []⟩
  Job.log .info
    ("Grid finished, " ++ summary.completed.repr ++ " records written, "
      ++ summary.abandoned.length.repr ++ " points abandoned")
  return summary

/-- Removes by force every unit that carries the label, on all hosts. -/
def cleanAll (b : Benchmark) : Job Nat :=
  b.fabric.cleanAll b.env.containerLabel

/-- What follows an interrupt. -/
def afterInterrupt (b : Benchmark) (kind : InterruptKind) : Job RunOutcome := do
  match kind with
  | .cleanup =>
    Job.log .warn "Caught interrupt, cleaning and exiting..."
    let removed ← b.cleanAll
    Job.log .info ("Removed " ++ removed.repr ++ " units")
  | .immediate => Job.log .warn "Caught suspend, exiting without cleaning..."
  return .interrupted kind

end Benchmark

end JoinBench
