import JoinBench.CommandLine.Options
import JoinBench.Oracle.Experiment
import JoinBench.Oracle.Files
import JoinBench.Storage
import JoinBench.Text.Blank

/-!
# Generating the data of sources

The command that prints the table of one source, or the join of all tables.  The tables are
generated, or taken from the columns of a CSV file, and their join may be cut down to a size.
Run once for each source with one seed, it prints tables that belong together.
-/

namespace JoinBench.GenData

open CommandLine (Parameter Stop Usage text? path? number?)

/-! ### Arguments -/

/-- Where the tables come from. -/
inductive Origin where
  | file (path : String)
  | generate (rows : Nat)
deriving DecidableEq, Inhabited, Repr

/-- What the command is asked for. -/
structure Arguments where
  /-- The sources, separated by commas. -/
  sourceIds : String
  origin : Origin
  joinSize : Option Nat
  seed : Option Nat
  /-- The source whose table is printed; any other name prints the join. -/
  id : String
deriving DecidableEq, Inhabited, Repr

/-- Arguments that are being read. -/
structure Draft where
  sourceIds : Option String := none
  file : Option String := none
  generate : Option Nat := none
  joinSize : Option Nat := none
  seed : Option Nat := none
  id : Option String := none
deriving DecidableEq, Inhabited, Repr

/-- The parameters of the command. -/
def usage : Usage Draft where
  options :=
    [.of "source_ids" (·.sourceIds) (fun d x => { d with sourceIds := some x }) text?,
     .of "file" (·.file) (fun d x => { d with file := some x }) path?,
     .of "generate" (·.generate) (fun d x => { d with generate := some x }) number?,
     .of "joinsize" (·.joinSize) (fun d x => { d with joinSize := some x }) number?,
     .of "seed" (·.seed) (fun d x => { d with seed := some x }) number?,
     .of "id" (·.id) (fun d x => { d with id := some x }) text?]
  places := []
  hasVersion := false

/-- A word with a second dash in front if it is an option behind a single one.  A dash in front
of a digit or of a single letter stays as it is. -/
def doubleDash (word : String) : String :=
  match word.toList with
  | '-' :: c :: rest =>
    if c = '-' || c.isDigit || (rest.isEmpty && c.utf8Size = 1) then word else "-" ++ word
  | _ => word

/-- Complete arguments: the sources and the name are needed, and exactly one origin. -/
def Draft.complete (d : Draft) : Except Stop Arguments :=
  let origin? := match d.file, d.generate with
    | some path, none => some (Origin.file path)
    | none, some rows => some (Origin.generate rows)
    | _, _ => none
  match d.sourceIds, d.id, origin? with
  | some sourceIds, some id, some origin => .ok ⟨sourceIds, origin, d.joinSize, d.seed, id⟩
  | _, _, _ => .error .mistake

/-- The arguments in the words of a command line. -/
def Arguments.parse (words : List String) : Except Stop Arguments :=
  (usage.read {} (words.map doubleDash)).bind Draft.complete

/-- The names of the sources, without the blanks around them; empty ones are left out. -/
def Arguments.sources (args : Arguments) : List RoleId :=
  let names := (args.sourceIds.split ',').toList.map fun name => Text.trim name.copy
  (names.filter (· ≠ "")).map RoleId.mk

/-! ### Failures -/

/-- Why no data can be printed. -/
inductive Failure where
  | noSources
  | unopened (path : String) (problem : FileProblem)
  | failed (error : Error)
deriving DecidableEq

/-- The words for a failure. -/
def Failure.message : Failure → String
  | noSources => "-source_ids needs at least one id"
  | unopened path _ => "cannot open '" ++ path ++ "'"
  | failed e => e.message

/-- What a failure is due to, where its words do not say it all. -/
def Failure.cause? : Failure → Option String
  | noSources => none
  | unopened _ problem => some problem.message
  | failed (.csv fault) => some fault.message
  | failed _ => none

/-- A failure as it is reported. -/
def Failure.report (f : Failure) : String :=
  "Error: " ++ f.message ++ "\n" ++
    match f.cause? with
    | some cause => "\nCaused by:\n    " ++ cause ++ "\n"
    | none => ""

/-! ### Running -/

/-- The tables in the file of a path.  A directory can be opened, but not read. -/
def readTables (content : Except FileProblem ByteArray) (path : String) (count : Nat) :
  Except Failure (List Table) :=
  match content with
  | .ok bytes => (Table.ofCsv (.ofContent bytes) count).mapError .failed
  | .error .isDirectory =>
    .error (.failed (.csv (.unreadable FileProblem.isDirectory.message)))
  | .error problem => .error (.unopened path problem)

/-- The tables before their join is cut down, drawn from a source of randomness. -/
def originTables (random : Random.Source σ) (content : String → Except FileProblem ByteArray)
  (sources : List RoleId) (origin : Origin) (s : σ) : Except Failure (List Table × σ) :=
  match origin with
  | .file path => (readTables (content path) path sources.length).map fun tables => (tables, s)
  | .generate rows => .ok (Experiment.generate random sources rows s)

/-- The tables that are asked for. -/
def tables (random : Random.Source σ) (content : String → Except FileProblem ByteArray)
  (args : Arguments) (s : σ) : Except Failure (List Table) := do
  let (tables, s) ← originTables random content args.sources args.origin s
  match args.joinSize with
  | none => return tables
  | some joinSize =>
    match Experiment.controlJoinSize random joinSize tables s with
    | .ok (tables, _) => return tables
    | .error e => throw (.failed e)

/-- What is printed of tables. -/
def print (sources : List RoleId) (id : String) (tables : List Table) : Except Error String :=
  match (sources.zip tables).find? (·.1.text = id) with
  | some (_, t) => t.toCsv
  | none => Table.joinToCsv sources (Table.join tables)

/-- What the command prints, drawing from a source of randomness. -/
def outputFrom (random : Random.Source σ) (content : String → Except FileProblem ByteArray)
  (args : Arguments) (s : σ) : Except Failure String := do
  if args.sources.isEmpty then throw .noSources
  let tables ← tables random content args s
  (print args.sources args.id tables).mapError .failed

/-- What the command prints; `fresh` is the seed where none is given. -/
def output (fresh : Nat) (content : String → Except FileProblem ByteArray) (args : Arguments) :
  Except Failure String :=
  outputFrom Random.stream content args (.ofSeed (args.seed.getD fresh))

end JoinBench.GenData
