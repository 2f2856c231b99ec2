import JoinBench.Json.Printer
import JoinBench.Text.Quoted

/-!
# Faults of JSON texts

What can be wrong with a text that is read as JSON or as a value of a given type, the words
for it, and the place in the text: a line and a column, both counted from one, the column in
bytes.
-/

namespace JoinBench.Json

open Decimal (Double)

/-- A value that stands where one of another type was wanted. -/
inductive Found where
  | null
  | bool (value : Bool)
  | int (value : Int)
  | double (value : Double)
  | text (value : String)
  | list
  | object

/-- The words for a value of the wrong type. -/
def Found.message : Found → String
  | .null => "null"
  | .bool true => "boolean `true`"
  | .bool false => "boolean `false`"
  | .int n => "integer `" ++ String.ofList (renderInt n) ++ "`"
  | .double x => "floating point `" ++ String.ofList (renderDouble x) ++ "`"
  | .text s => "string " ++ Text.quoted s
  | .list => "sequence"
  | .object => "map"

/-- What is wrong with a text. -/
inductive Problem where
  | endInValue
  | endInList
  | endInObject
  | endInText
  | expectedColon
  | expectedCommaOrBracket
  | expectedCommaOrBrace
  | expectedValue
  | expectedWord
  | nameNotText
  | invalidEscape
  | invalidNumber
  | numberOutOfRange
  | unpairedSurrogate
  | cutSurrogate
  | controlCharacter
  | trailingComma
  | trailingCharacters
  | nestedTooDeep
  | wrongType (found : Found) (wanted : String)
  | outOfRange (value : Int) (wanted : String)
  | wrongLength (found : Nat) (wanted : String)
  | unknownField (name : String) (known : List String)
  | missingField (name : String)
  | duplicateField (name : String)
  | unknownChoice (name : String) (known : List String)
  /-- A problem with a value in the words of its type. -/
  | stated (reason : String)

/-- A name between backticks. -/
def ticked (name : String) : String :=
  "`" ++ name ++ "`"

/-- The words for a choice among names. -/
def choice : List String → String
  | [] => "there are no fields"
  | [a] => "expected " ++ ticked a
  | [a, b] => "expected " ++ ticked a ++ " or " ++ ticked b
  | names => "expected one of " ++ String.intercalate ", " (names.map ticked)

/-- The words for a problem. -/
def Problem.message : Problem → String
  | .endInValue => "EOF while parsing a value"
  | .endInList => "EOF while parsing a list"
  | .endInObject => "EOF while parsing an object"
  | .endInText => "EOF while parsing a string"
  | .expectedColon => "expected `:`"
  | .expectedCommaOrBracket => "expected `,` or `]`"
  | .expectedCommaOrBrace => "expected `,` or `\x7d`"
  | .expectedValue => "expected value"
  | .expectedWord => "expected ident"
  | .nameNotText => "key must be a string"
  | .invalidEscape => "invalid escape"
  | .invalidNumber => "invalid number"
  | .numberOutOfRange => "number out of range"
  | .unpairedSurrogate => "lone leading surrogate in hex escape"
  | .cutSurrogate => "unexpected end of hex escape"
  | .controlCharacter => "control character (\\u0000-\\u001F) found while parsing a string"
  | .trailingComma => "trailing comma"
  | .trailingCharacters => "trailing characters"
  | .nestedTooDeep => "recursion limit exceeded"
  | .wrongType found wanted => "invalid type: " ++ found.message ++ ", expected " ++ wanted
  | .outOfRange value wanted =>
    "invalid value: integer `" ++ String.ofList (renderInt value) ++ "`, expected " ++ wanted
  | .wrongLength found wanted => "invalid length " ++ found.repr ++ ", expected " ++ wanted
  | .unknownField name known => "unknown field " ++ ticked name ++ ", " ++ choice known
  | .missingField name => "missing field " ++ ticked name
  | .duplicateField name => "duplicate field " ++ ticked name
  | .unknownChoice name known => "unknown variant " ++ ticked name ++ ", " ++ choice known
  | .stated reason => reason

/-- Kinds of problems. -/
inductive ProblemKind where
  /-- The text ends before its value does. -/
  | early
  /-- The text is not JSON. -/
  | malformed
  /-- The text is JSON, but not a value of the wanted type. -/
  | unfit
deriving DecidableEq, Inhabited, Repr

/-- The kind of a problem. -/
def Problem.kind : Problem → ProblemKind
  | .endInValue | .endInList | .endInObject | .endInText => .early
  | .wrongType .. | .outOfRange .. | .wrongLength .. | .unknownField .. | .missingField _
  | .duplicateField _ | .unknownChoice .. | .stated _ => .unfit
  | _ => .malformed

/-- A problem and the number of bytes of the text that were not read when it was met. -/
structure Fault where
  problem : Problem
  left : Nat

/-- The number of bytes of some characters. -/
def byteLength (cs : List Char) : Nat :=
  cs.foldl (fun n c => n + c.utf8Size) 0

/-- A problem in front of the remaining characters. -/
def Fault.before (problem : Problem) (rest : List Char) : Fault :=
  ⟨problem, byteLength rest⟩

/-- A problem with the next byte of the remaining characters. -/
def Fault.on (problem : Problem) (rest : List Char) : Fault :=
  ⟨problem, byteLength rest - 1⟩

/-- The line and column behind the given bytes. -/
def placeBehind (bytes : List UInt8) : Nat × Nat :=
  bytes.foldl (fun place b => if b = 10 then (place.1 + 1, 0) else (place.1, place.2 + 1)) (1, 0)

/-- The words for a fault of a text, with its place. -/
def Fault.message (fault : Fault) (text : String) : String :=
  let bytes := text.toUTF8.toList
  let place := placeBehind (bytes.take (bytes.length - fault.left))
  fault.problem.message ++ " at line " ++ place.1.repr ++ " column " ++ place.2.repr

end JoinBench.Json
