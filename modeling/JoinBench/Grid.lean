import JoinBench.Error
import JoinBench.Json.Decode
import JoinBench.Text.Numeral

/-!
# Grids of experiments

A grid combines every number of sources with every pair of a set size and a join size, and
repeats each combination.  Its points are numbered in that order, and the number of a point
decides the data it runs on, so it does not depend on where a run of the grid starts.
-/

namespace JoinBench

/-- A grid of experiments. -/
structure Grid where
  nSources : List Nat
  setSize : List Nat
  joinSize : List Nat
  rep : Nat
deriving DecidableEq, Inhabited, Repr

/-- An experiment: a point of a grid. -/
structure Point where
  /-- The position in the grid, counted from zero. -/
  index : Nat
  nSources : Nat
  setSize : Nat
  joinSize : Nat
  rep : Nat
deriving DecidableEq, Inhabited, Repr

namespace Point

/-- The seed of the data. -/
def seed (point : Point) : Nat :=
  point.index

/-- The position in the grid, counted from one. -/
def number (point : Point) : Nat :=
  point.index + 1

/-- A point in messages. -/
def display (point : Point) : String :=
  "N=" ++ point.nSources.repr ++ " SetSize=" ++ point.setSize.repr ++ " JoinSize="
    ++ point.joinSize.repr ++ " REP=" ++ point.rep.repr

end Point

namespace Grid

/-- A grid whose join sizes are eighty percent of its set sizes, rounded down. -/
def withDefaultJoinSizes (nSources setSize : List Nat) (rep : Nat) : Grid :=
  ⟨nSources, setSize, setSize.map fun size => size * 8 / 10, rep⟩

/-- The grids that are always there, by name. -/
def builtins : List (String × Grid) :=
  [("light", withDefaultJoinSizes [2, 3, 4] [1353, 1700, 19735] 2),
   ("full", withDefaultJoinSizes [2, 3, 4, 5, 6] [1353, 1700, 19735, 45211, 253680] 3),
   ("genmpc_comp", withDefaultJoinSizes [2] [10, 100, 1000] 3)]

/-- The grid that is always there under a name. -/
def builtin? (name : String) : Option Grid :=
  (builtins.find? (·.1 = name)).map (·.2)

/-- The combinations of a grid, in order, without their positions. -/
def combinations (grid : Grid) : List (Nat × Nat × Nat × Nat) :=
  grid.nSources.flatMap fun nSources =>
    (grid.setSize.zip grid.joinSize).flatMap fun (setSize, joinSize) =>
      (List.range grid.rep).map fun rep => (nSources, setSize, joinSize, rep)

/-- The points of a grid, in order. -/
def points (grid : Grid) : Except Error (List Point) :=
  if grid.setSize.length ≠ grid.joinSize.length then
    .error (.config (.unpairedSizes grid.setSize.length grid.joinSize.length))
  else
    .ok (grid.combinations.mapIdx fun index (nSources, setSize, joinSize, rep) =>
      ⟨index, nSources, setSize, joinSize, rep⟩)

end Grid

/-- The points still to run when a run starts again at the point with number `skipTo`; zero and
one are the whole grid. -/
def resumeFrom (points : List Point) (skipTo : Nat) : List Point :=
  points.filter fun point => skipTo ≤ point.number

/-! ### Grids in JSON -/

/-- A grid that is being read. -/
structure GridDraft where
  nSources : Option (List Nat) := none
  setSize : Option (List Nat) := none
  joinSize : Option (List Nat) := none
  rep : Option Nat := none

/-- Reads a size. -/
def readSize : Json.Reader Nat :=
  Json.readNat "usize" Text.bound64

/-- The fields of a grid, all of them required. -/
def Grid.record : Json.Record GridDraft where
  wanted := "struct ExperimentGridDto"
  fields :=
    [.of "n_sources" (·.nSources) (fun d x => { d with nSources := some x })
      (Json.readList readSize),
     .of "set_size" (·.setSize) (fun d x => { d with setSize := some x })
      (Json.readList readSize),
     .of "join_size" (·.joinSize) (fun d x => { d with joinSize := some x })
      (Json.readList readSize),
     .of "rep" (·.rep) (fun d x => { d with rep := some x }) readSize]
  required := true
  closed := true

/-- Reads a grid. -/
def Grid.read : Json.Reader Grid := fun room cs =>
  (Json.readRecord Grid.record {} room cs).map fun (d, rest) =>
    (⟨d.nSources.getD [], d.setSize.getD [], d.joinSize.getD [], d.rep.getD 0⟩, rest)

/-- The grid in a text. -/
def Grid.parse (text : String) : Except Error Grid :=
  match Json.ofText Grid.read text with
  | .ok grid => .ok grid
  | .error fault => .error (.json (fault.message text))

end JoinBench
