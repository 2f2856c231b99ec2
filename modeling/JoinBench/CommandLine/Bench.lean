import JoinBench.CommandLine.Options
import JoinBench.Docker.Connect
import JoinBench.Output
import JoinBench.World

/-!
# Running a benchmark

The command that runs a grid of experiments on docker hosts.  It opens the log, loads the
environment, plans the points, connects to the hosts, opens the sinks and runs the points; every
step but the first may end the run, and the log tells how far it came.
-/

namespace JoinBench.Bench

open CommandLine (Parameter Stop Usage text? path? number?)

/-! ### Arguments -/

/-- What the command is asked for. -/
structure Arguments where
  grid : String
  /-- The number of the first point to run. -/
  skipTo : Option Nat
  /-- The path of the environment. -/
  env : Option String
  /-- The path of the file that gets the records. -/
  output : Option String
deriving DecidableEq, Inhabited, Repr

/-- Arguments that are being read. -/
structure Draft where
  grid : Option String := none
  skipTo : Option Nat := none
  env : Option String := none
  output : Option String := none
deriving DecidableEq, Inhabited, Repr

/-- The parameters of the command. -/
def usage : Usage Draft where
  options :=
    [.of "env" (·.env) (fun d x => { d with env := some x }) path?,
     .of "output" (·.output) (fun d x => { d with output := some x }) path?]
  places :=
    [.of "grid" (·.grid) (fun d x => { d with grid := some x }) text?,
     .of "skip_to" (·.skipTo) (fun d x => { d with skipTo := some x }) number?]
  hasVersion := true

/-- The arguments in the words of a command line. -/
def Arguments.parse (words : List String) : Except Stop Arguments :=
  match usage.read {} words with
  | .error stop => .error stop
  | .ok d =>
    match d.grid with
    | some grid => .ok ⟨grid, d.skipTo, d.env, d.output⟩
    | none => .error .mistake

/-! ### Endings -/

/-- How a run ends. -/
inductive Ending where
  | done (outcome : RunOutcome)
  /-- It did not begin. -/
  | rejected (error : Error)
  /-- It ended before the grid was through. -/
  | aborted (error : Error)

namespace Ending

/-- How a run with the given result ends. -/
def ofResult : Except Error RunOutcome → Ending
  | .ok outcome => done outcome
  | .error e => aborted e

/-- Numbers in a list. -/
def numbersShown (numbers : List Nat) : String :=
  "[" ++ String.intercalate ", " (numbers.map Nat.repr) ++ "]"

/-- The last words of the log. -/
def lines : Ending → List LogLine
  | done (.finished summary) =>
    if summary.abandoned.isEmpty then []
    else [.of .warn ("Abandoned experiments: " ++ numbersShown summary.abandoned)]
  | done (.interrupted kind) => [.of .info ("Stopped by " ++ kind.name ++ " interrupt.")]
  | rejected e => [.of .error e.message]
  | aborted e => [.of .error ("Run aborted: " ++ e.message)]

/-- Whether the command succeeds; an interrupt is no failure. -/
def isSuccess : Ending → Bool
  | done _ => true
  | rejected _ | aborted _ => false

end Ending

/-! ### Runs -/

/-- How the log is kept in a file. -/
structure LogKeeper where
  /-- Which lines are kept. -/
  filter : LogFilter
  /-- How a line stands in the file. -/
  entry : LogLine → String

/-- The path of the file of the log. -/
def logPath : String :=
  "logs/orchestrator.log"

/-- A folder with lines at the end of the file of the log.  If the file cannot be opened, nothing
is kept. -/
def LogKeeper.keep (keeper : LogKeeper) (lines : List LogLine) (folder : Folder) : Folder :=
  match folder.openForAppend logPath with
  | .error _ => folder
  | .ok (folder, place) =>
    folder.append place
      (String.join ((lines.filter keeper.filter.passes).map (keeper.entry · ++ "\n")))

/-- What a run finds: files, and servers that are talked to. -/
structure Site (σ : Type) where
  folder : Folder
  log : LogKeeper
  /-- The path of the local socket if there is none. -/
  missingSocket : Option String
  handler : Handler Http.interface σ
  servers : σ

/-- What a run leaves behind. -/
structure Report (σ : Type) where
  /-- How it ended; `none` if it hangs. -/
  ending : Option Ending
  lines : List LogLine
  /-- The records that were printed. -/
  printed : String
  folder : Folder
  servers : σ

namespace Report

/-- A run that ended before any point was run. -/
def early (site : Site σ) (servers : σ) (ending : Option Ending) : Report σ :=
  ⟨ending, [], "", site.folder, servers⟩

/-- A report behind lines that were logged before. -/
def behind (lines : List LogLine) (report : Report σ) : Report σ :=
  { report with lines := lines ++ report.lines }

/-- A report with the last words of the log. -/
def closed (report : Report σ) : Report σ :=
  { report with lines := report.lines ++ (report.ending.map Ending.lines).getD [] }

end Report

/-- The first line of every log. -/
def firstLine : LogLine :=
  .of .info ("Logger initialized. Logging to console and '" ++ logPath ++ "'.")

/-- The environment and the points to run, with what is logged on the way. -/
def prepare (args : Arguments) (content : String → Except FileProblem ByteArray) :
  List LogLine × Except Error (Environment × List Point) :=
  let (lines, env) := Environment.load (args.env.map fun path => (path, content path))
  (lines, do
    let env ← env
    let points ← env.plan args.grid (args.skipTo.getD 0)
    return (env, points))

/-- Runs points on the hosts of a fabric. -/
def runPoints (site : Site σ) (args : Arguments) (b : Benchmark) (points : List Point)
  (servers : σ) : Report σ :=
  match Output.begin site.folder args.output with
  | .error e => .early site servers (some (.aborted e))
  | .ok output =>
    let (result, w) := b.runUntilInterrupted (Docker.layer site.handler) points none
      (World.start servers output.sinks)
    let output := { output with sinks := w.sinks }
    ⟨result.map .ofResult, w.lines, output.printed, output.stored, w.hosts⟩

/-- Connects to the hosts of an environment and runs points on them. -/
def runOn (site : Site σ) (args : Arguments) (env : Environment) (points : List Point) :
  Report σ :=
  let reach : Docker.Reach :=
    ⟨site.missingSocket, env.tls.map (Docker.Certificates.find site.folder)⟩
  match Program.run site.handler (Docker.connectAll reach [] env.allHosts) site.servers with
  | (none, servers) => .early site servers none
  | (some (.error e), servers) => .early site servers (some (.aborted e))
  | (some (.ok connected), servers) =>
    match connected.fabric with
    | .error e => (Report.early site servers (some (.aborted e))).behind connected.lines
    | .ok fabric =>
      (runPoints site args ⟨env, fabric⟩ points servers).behind
        (connected.lines
          ++ [.of .info ("Connected to " ++ fabric.hosts.length.repr ++ " container hosts.")])

/-- Runs the command.  The first line of the log is kept before any other file is read. -/
def run (site : Site σ) (args : Arguments) : Report σ :=
  let site := { site with folder := site.log.keep [firstLine] site.folder }
  let (lines, prepared) := prepare args site.folder.read
  let report := match prepared with
    | .error e => Report.early site site.servers (some (.rejected e))
    | .ok (env, points) => runOn site args env points
  let report := (report.behind lines).closed
  { report with
    lines := firstLine :: report.lines
    folder := site.log.keep report.lines report.folder }

end JoinBench.Bench
