/-!
# Faults of CSV tables
-/

namespace JoinBench.Csv

/-- Where the reading of a record began: its number, the header being number zero, the line,
counted from one, and the byte, counted from zero. -/
structure Place where
  record : Nat
  line : Nat
  byte : Nat
deriving DecidableEq, Repr

/-- What can be wrong with a table. -/
inductive Fault where
  /-- A record has another number of fields than the first one. -/
  | unequalLengths (place : Option Place) (found expected : Nat)
  /-- A field is not UTF-8 behind its first `valid` bytes. -/
  | notUtf8 (place : Place) (field valid : Nat)
  /-- The table cannot be read, for a reason in the words of the operating system. -/
  | unreadable (reason : String)
deriving DecidableEq, Repr

/-- The words for a fault. -/
def Fault.message : Fault → String
  | .unequalLengths place found expected =>
    let where_ := match place with
      | none => ""
      | some p =>
        "record " ++ p.record.repr ++ " (line: " ++ p.line.repr ++ ", byte: " ++ p.byte.repr
          ++ "): "
    "CSV error: " ++ where_ ++ "found record with " ++ found.repr
      ++ " fields, but the previous record has " ++ expected.repr ++ " fields"
  | .notUtf8 p field valid =>
    "CSV parse error: record " ++ p.record.repr ++ " (line " ++ p.line.repr ++ ", field: "
      ++ field.repr ++ ", byte: " ++ p.byte.repr ++ "): invalid utf-8: invalid UTF-8 in field "
      ++ field.repr ++ " near byte index " ++ valid.repr
  | .unreadable reason => reason

end JoinBench.Csv
