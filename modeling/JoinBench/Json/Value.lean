import JoinBench.Decimal.Double

/-!
# JSON values

Integers keep their exact value and are told apart from doubles.  The members of an object
stand in ascending order of their names, each name once.
-/

namespace JoinBench

open Decimal (Double)

/-- A JSON value. -/
inductive Json where
  | null
  | bool (value : Bool)
  | int (value : Int)
  | double (value : Double)
  | text (value : String)
  | list (items : List Json)
  | object (members : List (String × Json))
deriving Inhabited

namespace Json

/-- The ascending list of members with `value` under `name`, in place of an earlier value of
that name. -/
def put (name : String) (value : α) : List (String × α) → List (String × α)
  | [] => [(name, value)]
  | (other, old) :: rest =>
    if name < other then (name, value) :: (other, old) :: rest
    else if name = other then (name, value) :: rest
    else (other, old) :: put name value rest

/-- The ascending list of the given members; of two members of one name the later stays. -/
def ofMembers (members : List (String × α)) : List (String × α) :=
  members.foldl (fun found m => put m.1 m.2 found) []

/-- The value under a name. -/
def member? (name : String) : Json → Option Json
  | .object members => (members.find? (·.1 = name)).map (·.2)
  | _ => none

end Json

end JoinBench
