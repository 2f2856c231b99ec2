import JoinBench.CommandLine.Bench
import JoinBench.CommandLine.GenData

/-!
# The commands

`gen-data` prints tables; every other command line is that of a benchmark.  There is no
transport to a docker daemon here: a benchmark is planned and then ends where it would connect.
-/

namespace JoinBench.Terminal

/-- What went wrong with a file. -/
def problemOf : IO.Error → FileProblem
  | .noFileOrDirectory _ _ _ => .notFound
  | .inappropriateType none _ _ => .isDirectory
  | .inappropriateType (some _) _ _ => .notDirectory
  | e => .stated (toString e)

/-- Reads a file. -/
def readFile (path : String) : IO (Except FileProblem ByteArray) := do
  try
    return .ok (← IO.FS.readBinFile path)
  catch e =>
    return .error (problemOf e)

/-- Reads a file if there is a path. -/
def readFile? : Option String → IO (Except FileProblem ByteArray)
  | none => return .error .notFound
  | some path => readFile path

/-- A seed that differs from run to run. -/
def freshSeed : IO Nat := do
  return (← IO.getRandomBytes 8).foldl (fun n b => n * 256 + b.toNat) 0

/-- The path of the origin of tables. -/
def originPath? : GenData.Origin → Option String
  | .file path => some path
  | .generate _ => none

/-- Generates data. -/
def genData (words : List String) : IO UInt32 := do
  match GenData.Arguments.parse words with
  | .error .mistake =>
    IO.eprintln
      "usage: gen-data -source_ids IDS -id ID (-file FILE | -generate ROWS) [-joinsize N] [-seed N]"
    return 2
  | .error _ =>
    IO.println "Prints the table of one source, or the join of all tables."
    return 0
  | .ok args =>
    let content ← readFile? (originPath? args.origin)
    match GenData.output (← freshSeed) (fun _ => content) args with
    | .ok text =>
      IO.print text
      return 0
    | .error failure =>
      IO.eprint failure.report
      return 1

/-- The filter of the log. -/
def logFilter : IO LogFilter := do
  return LogFilter.ofSetting ((← IO.getEnv "JOINBENCH_LOG").getD "info")

/-- Logs lines as far as the filter lets them through. -/
def logLines (filter : LogFilter) (lines : List LogLine) : IO Unit := do
  IO.FS.createDirAll "logs"
  IO.FS.withFile Bench.logPath .append fun file => do
    for line in lines.filter filter.passes do
      IO.eprintln line.display
      file.putStrLn line.display

/-- The folder in which a path leads to some content. -/
def folderOf (path : Option String) (content : Except FileProblem ByteArray) : Folder :=
  match path, content with
  | some path, .ok bytes => ⟨[((Path.places path).getLastD [], bytes)], (Path.places path).dropLast⟩
  | some path, .error .isDirectory => ⟨[], Path.places path⟩
  | _, _ => .ofFiles []

/-- A server that is never reached. -/
def nobody : Handler Http.interface Unit :=
  fun _ s => (some .lost, s)

/-- Runs a benchmark. -/
def bench (words : List String) : IO UInt32 := do
  match Bench.Arguments.parse words with
  | .error .mistake =>
    IO.eprintln "usage: GRID [SKIP_TO] [--env FILE] [--output FILE]"
    return 1
  | .error _ =>
    IO.println "Runs a grid of experiments and prints one record per experiment."
    return 0
  | .ok args =>
    let folder := folderOf args.env (← readFile? args.env)
    let filter ← logFilter
    let keeper := ⟨filter, LogLine.display⟩
    let report := Bench.run ⟨folder, keeper, some "/var/run/docker.sock", nobody, ()⟩ args
    logLines filter report.lines
    IO.print report.printed
    return if report.ending.any (·.isSuccess) then 0 else 1

end JoinBench.Terminal

/-- Runs the command that the first word names. -/
def main : List String → IO UInt32
  | "gen-data" :: words => JoinBench.Terminal.genData words
  | words => JoinBench.Terminal.bench words
