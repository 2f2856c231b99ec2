import JoinBench.Csv.Fault

/-!
# Writing CSV

Every record ends with a line feed.  A field stands between quotes if and only if it contains
a comma, a quote, a carriage return or a line feed, and quotes inside are doubled.  A record
of one empty field is written as a pair of quotes, since an empty line would be skipped.
-/

namespace JoinBench.Csv

/-- Whether a character makes quotes around its field necessary. -/
def needsQuotes (c : Char) : Bool :=
  c = ',' || c = '"' || c = '\r' || c = '\n'

/-- A quoted field without its outer quotes: every quote twice. -/
def doubleQuotes : List Char → List Char
  | [] => []
  | c :: rest => if c = '"' then '"' :: '"' :: doubleQuotes rest else c :: doubleQuotes rest

/-- A field as it is written. -/
def writeField (field : List Char) : List Char :=
  if field.any needsQuotes then '"' :: doubleQuotes field ++ ['"'] else field

/-- The fields of a record with commas between them. -/
def writeFields : List (List Char) → List Char
  | [] => []
  | [field] => writeField field
  | field :: rest => writeField field ++ ',' :: writeFields rest

/-- A record with its line feed. -/
def writeRecord (fields : List String) : List Char :=
  match fields.map String.toList with
  | [[]] => ['"', '"', '\n']
  | fields => writeFields fields ++ ['\n']

/-- A table; every record must have as many fields as the header. -/
def write (header : List String) (rows : List (List String)) : Except Fault String :=
  match rows.find? fun row => row.length ≠ header.length with
  | some row => .error (.unequalLengths none row.length header.length)
  | none => .ok (String.ofList (writeRecord header ++ rows.flatMap writeRecord))

end JoinBench.Csv
