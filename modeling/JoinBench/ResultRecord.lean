import JoinBench.Grid

/-!
# Result records

A finished experiment leaves one record: the four numbers of its point and what the units
reported.  Records are written as lines of JSON, and such a line reads back as the record.
-/

namespace JoinBench

/-- The record of a finished experiment. -/
structure ResultRecord where
  nSources : Nat
  setSize : Nat
  joinSize : Nat
  rep : Nat
  /-- The statistics of the units, in ascending order of their names; `none` where a unit
  reported nothing. -/
  nodesStats : List (String × Option Json)
deriving Inhabited

namespace ResultRecord

/-! ### Writing -/

/-- The members of a record behind the numbers: the statistics of each unit. -/
def statsJson (stats : List (String × Option Json)) : Json :=
  .object (stats.map fun m => (m.1, m.2.getD .null))

/-- A record as JSON text, its members in the order of their declaration. -/
def jsonText (r : ResultRecord) : String :=
  let member (name : String) (value : Json) := Json.renderText name ++ ':' :: Json.render value
  String.ofList
    ('\x7b' :: member "n_sources" (.int r.nSources) ++ ',' :: member "set_size" (.int r.setSize)
      ++ ',' :: member "join_size" (.int r.joinSize) ++ ',' :: member "rep" (.int r.rep)
      ++ ',' :: member "nodes_stats" (statsJson r.nodesStats) ++ ['\x7d'])

/-! ### Reading -/

/-- A record that is being read. -/
structure Draft where
  nSources : Option Nat := none
  setSize : Option Nat := none
  joinSize : Option Nat := none
  rep : Option Nat := none
  nodesStats : Option (List (String × Option Json)) := none

/-- The fields of a record, all of them required; others are skipped. -/
def record : Json.Record Draft where
  wanted := "struct ResultRecord"
  fields :=
    [.of "n_sources" (·.nSources) (fun d x => { d with nSources := some x }) readSize,
     .of "set_size" (·.setSize) (fun d x => { d with setSize := some x }) readSize,
     .of "join_size" (·.joinSize) (fun d x => { d with joinSize := some x }) readSize,
     .of "rep" (·.rep) (fun d x => { d with rep := some x }) readSize,
     .of "nodes_stats" (·.nodesStats) (fun d x => { d with nodesStats := some x })
      (Json.readMap (Json.readOptional Json.readValue))]
  required := true
  closed := false

/-- Reads a record. -/
def read : Json.Reader ResultRecord := fun room cs =>
  (Json.readRecord record {} room cs).map fun (d, rest) =>
    (⟨d.nSources.getD 0, d.setSize.getD 0, d.joinSize.getD 0, d.rep.getD 0,
      d.nodesStats.getD []⟩, rest)

/-- The record in a text. -/
def parse (text : String) : Except Error ResultRecord :=
  match Json.ofText read text with
  | .ok r => .ok r
  | .error fault => .error (.json (fault.message text))

end ResultRecord

end JoinBench
