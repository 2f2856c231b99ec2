import JoinBench.Json.Printer
import JoinBench.Text.Quoted

/-!
# JSON values in messages

Values as log lines show them, with the kind of each value.
-/

namespace JoinBench.Json

mutual

/-- A value with its kind. -/
def shown : Json → String
  | null => "Null"
  | bool value => "Bool(" ++ (if value then "true" else "false") ++ ")"
  | int value => "Number(" ++ String.ofList (renderInt value) ++ ")"
  | double value => "Number(" ++ String.ofList (renderDouble value) ++ ")"
  | text value => "String(" ++ Text.quoted value ++ ")"
  | list items => "Array [" ++ String.intercalate ", " (shownItems items) ++ "]"
  | object members => "Object \x7b" ++ String.intercalate ", " (shownMembers members) ++ "\x7d"

/-- Several values with their kinds. -/
def shownItems : List Json → List String
  | [] => []
  | item :: rest => item.shown :: shownItems rest

/-- Several members with the kinds of their values. -/
def shownMembers : List (String × Json) → List String
  | [] => []
  | (name, value) :: rest => (Text.quoted name ++ ": " ++ value.shown) :: shownMembers rest

end

end JoinBench.Json
