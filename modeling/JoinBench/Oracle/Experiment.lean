import JoinBench.Oracle.Table
import JoinBench.Random.Sample

/-!
# The data of an experiment

The tables of the sources are drawn from one source of randomness.  At first all tables share
all keys; then as many keys as needed are taken out of the join, each by giving it another name
in some of the tables, but not in all of them.  Whoever draws from the same seed gets the same
tables, so the result of an experiment can be told beforehand.
-/

namespace JoinBench.Experiment

open JoinBench.Random

variable {σ : Type}

/-- The largest number in a value. -/
def maxDraw : Nat := 1000

/-- The key of a row. -/
def keyOf (row : Nat) : String :=
  "key_" ++ row.repr

/-- The value of a source with the number that was drawn for it. -/
def valueOf (source : RoleId) (draw : Nat) : String :=
  "val_" ++ source.text ++ "_" ++ draw.repr

/-- The name under which a table keeps the entry of a key that was taken out of the join. -/
def removedKey (key : String) : String :=
  "removed_" ++ key

/-! ### Generating tables -/

/-- Draws a value for each source. -/
def drawRow (random : Source σ) : List RoleId → σ → List String × σ
  | [], s => ([], s)
  | source :: rest, s =>
    let (draw, s) := random.between 1 maxDraw s
    let (values, s) := drawRow random rest s
    (valueOf source draw :: values, s)

/-- Draws the values of the rows, `count` of them, behind those in `drawn`, which stand in
reverse. -/
def drawRows (random : Source σ) (sources : List RoleId) (drawn : List (List String)) :
  (count : Nat) → σ → List (List String) × σ
  | 0, s => (drawn.reverse, s)
  | count + 1, s =>
    let (values, s) := drawRow random sources s
    drawRows random sources (values :: drawn) count s

/-- Enters the values of a row into the tables. -/
def enterRow (row : Nat) (values : List String) (tables : List Table) : List Table :=
  tables.zipWith (fun t value => t.insert (keyOf row) value) values

/-- Enters the values of the rows from number `row` on. -/
def enterRows (row : Nat) : List (List String) → List Table → List Table
  | [], tables => tables
  | values :: rest, tables => enterRows (row + 1) rest (enterRow row values tables)

/-- One table for each source with the given number of rows. -/
def generate (random : Source σ) (sources : List RoleId) (rows : Nat) (s : σ) : List Table × σ :=
  let (values, s) := drawRows random sources [] rows s
  (enterRows 0 values (sources.map fun _ => ∅), s)

/-! ### Controlling the size of the join -/

/-- Takes a key out of the join: some of the tables, but neither none nor all of them, give it
another name. -/
def removeKey (random : Source σ) (key : String) (tables : List Table) (s : σ) :
  List Table × σ :=
  let (count, s) := random.between 1 (tables.length - 1) s
  let (chosen, s) := random.sample tables.length count s
  (chosen.foldl (fun ts i => ts.modify i (·.rename key (removedKey key))) tables, s)

/-- Takes keys out of the join, one after the other. -/
def removeKeys (random : Source σ) : List String → List Table → σ → List Table × σ
  | [], tables, s => (tables, s)
  | key :: rest, tables, s =>
    let (tables, s) := removeKey random key tables s
    removeKeys random rest tables s

/-- Shrinks the join of tables that share their keys to the given size.  The keys to take out
are sampled from the keys of the first table. -/
def controlJoinSize (random : Source σ) (joinSize : Nat) (tables : List Table) (s : σ) :
  Except Error (List Table × σ) :=
  match tables with
  | [] => .ok ([], s)
  | first :: _ =>
    let keys := first.keys.toArray
    if keys.size ≤ joinSize then .error (.config (.joinTooLarge joinSize keys.size))
    else if tables.length < 2 then .error (.config .tooFewTables)
    else
      let (chosen, s) := random.sample keys.size (keys.size - joinSize) s
      .ok (removeKeys random (chosen.filterMap (keys[·]?)) tables s)

/-! ### Experiments -/

/-- The tables of an experiment, drawn from a given source of randomness. -/
def tablesFrom (random : Source σ) (sources : List RoleId) (rows joinSize : Nat) (s : σ) :
  Except Error (List Table) :=
  let (tables, s) := generate random sources rows s
  (controlJoinSize random joinSize tables s).map (·.1)

/-- The tables of an experiment. -/
def tables (sources : List RoleId) (rows joinSize seed : Nat) : Except Error (List Table) :=
  tablesFrom stream sources rows joinSize (ChaCha.Stream.ofSeed seed)

/-- The rows that the receiver of an experiment has to print. -/
def expectedResult (sources : List RoleId) (rows joinSize seed : Nat) : Except Error RowSet :=
  (tables sources rows joinSize seed).map fun ts => Table.rows (Table.join ts)

end JoinBench.Experiment
