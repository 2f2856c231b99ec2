import JoinBench.Csv.Reader
import JoinBench.Csv.Writer
import JoinBench.Oracle.Table

/-!
# Tables as CSV

A table is written with a column of keys and one of values, a join with a column of values for
each source.  Reading takes such files apart again, a table for each column of values.
-/

namespace JoinBench.Table

/-- The name of the column of keys. -/
def keyColumn : String := "uid"

/-- The name of the column of values. -/
def valueColumn : String := "val"

/-- The name of the column of values of a source. -/
def valueColumnOf (source : RoleId) : String :=
  valueColumn ++ "-" ++ source.text

/-- Enters the values of a record into the tables; a value that is missing is empty. -/
def enterRecord (tables : List Table) : List String → List Table
  | [] => tables
  | key :: values => tables.mapIdx fun i t => t.insert key (values[i]?.getD "")

/-- Enters records up to the first fault. -/
def enterRecords : List Table → List (Except Csv.Fault (List String)) →
  Except Error (List Table)
  | tables, [] => .ok tables
  | _, .error fault :: _ => .error (.csv fault)
  | tables, .ok fields :: rest => enterRecords (enterRecord tables fields) rest

/-- The tables of the first columns of values, `count` of them. -/
def ofCsv (input : Csv.Input) (count : Nat) : Except Error (List Table) :=
  let split (header : List String) (records : List (Except Csv.Fault (List String))) :=
    let columns := header.length - 1
    if columns < count then .error (.config (.tooFewColumns columns count))
    else enterRecords (List.replicate count ∅) records
  match input.uniform with
  | [] => split [] []
  | .error fault :: _ => .error (.csv fault)
  | .ok header :: records => split header records

/-- A table as CSV, in ascending order of its keys. -/
def toCsv (t : Table) : Except Error String :=
  (Csv.write [keyColumn, valueColumn] (t.toList.map fun e => [e.1, e.2])).mapError .csv

/-- A join as CSV. -/
def joinToCsv (sources : List RoleId) (joined : Joined) : Except Error String :=
  (Csv.write (keyColumn :: sources.map valueColumnOf)
    (joined.map fun entry => entry.1 :: entry.2)).mapError .csv

end JoinBench.Table
