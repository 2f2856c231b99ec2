import JoinBench.Csv.Reader
import JoinBench.Error
import JoinBench.Json.Reader
import JoinBench.Log
import JoinBench.Text.Blank
import JoinBench.Text.Lines
import JoinBench.Text.Search

/-!
# What units report

A unit may print statistics: JSON behind a marker, on a line of its log.  The receiver prints
the rows of the result as CSV.
-/

namespace JoinBench

namespace Statistics

/-- The marker in front of the statistics of a unit. -/
def marker : String := "Stats:"

/-- The text of the statistics in an output: the first line with a marker counts. -/
def payload? (output : String) : Option String :=
  ((Text.charLines output.toList).findSome? (Text.behind? marker.toList)).map
    fun cs => String.ofList (Text.trimBlanks cs)

/-- The statistics in an output, if there are any. -/
def parse (output : String) : Except Error (Option Json) :=
  match payload? output with
  | none => .ok none
  | some text =>
    match Json.parse text with
    | .ok value => .ok (some value)
    | .error fault => .error (.stats (fault.message text ++ " in '" ++ text ++ "'"))

/-- The statistics in the output of a role; statistics that cannot be read are dropped with a
line in the log. -/
def collect (role : RoleId) (output : String) : List LogLine × Option Json :=
  match parse output with
  | .ok (some value) => ([], some value)
  | .ok none => ([.of .debug (role.text ++ " reported no statistics")], none)
  | .error e =>
    ([.of .warn ("Dropping statistics of " ++ role.text ++ ": " ++ e.message)], none)

end Statistics

/-- The rows that the receiver printed below the header, whatever number of fields each of them
has. -/
def receivedRows (output : String) : RowSet :=
  ((Csv.textRecords output).drop 1).foldl
    (fun rows r => rows.insert (String.intercalate "," r.fields)) ∅

end JoinBench
