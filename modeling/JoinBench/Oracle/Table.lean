import JoinBench.Error
import Std.Data.ExtTreeMap

/-!
# Tables and their join

Every source holds a table from keys to values.  The join of several tables has the keys that
all of them share, each with one value of every table.
-/

namespace JoinBench

/-- The table of a source. -/
abbrev Table := Std.ExtTreeMap String String

/-- The join of tables: every common key, in ascending order, with its values in the order of
the tables. -/
abbrev Joined := List (String × List String)

namespace Table

/-- The table of the given entries; of two entries of one key the later stays. -/
def ofEntries (entries : List (String × String)) : Table :=
  entries.foldl (fun t e => t.insert e.1 e.2) ∅

/-- Puts the entry of `key`, if there is one, under `target` instead. -/
def rename (t : Table) (key target : String) : Table :=
  match t[key]? with
  | some value => (t.erase key).insert target value
  | none => t

/-- The join of tables. -/
def join : List Table → Joined
  | [] => []
  | first :: rest =>
    (first.keys.filter fun key => rest.all (·.contains key)).map fun key =>
      (key, (first :: rest).filterMap (·[key]?))

/-- A joined entry as the receiver prints it. -/
def row (values : List String) : String :=
  String.intercalate "," values

/-- The rows of a join. -/
def rows (joined : Joined) : RowSet :=
  joined.foldl (fun found entry => found.insert (row entry.2)) ∅

end Table

/-- Accepts the observed rows if and only if they are the expected ones. -/
def verify (expected observed : RowSet) : Except Error Unit :=
  if expected = observed then .ok () else .error (.resultMismatch expected observed)

end JoinBench
