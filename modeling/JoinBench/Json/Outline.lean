import JoinBench.Json.Decode

/-!
# Outlines of objects

Records of which only some members are kept.  The others are checked for their type and then
dropped, and members of unknown names are skipped.  As a list, such a record has the values of
all its fields.
-/

namespace JoinBench.Json.Outline

/-- What is kept of an object while it is read. -/
structure Draft (α : Type) where
  value : α
  /-- The fields that were given so far. -/
  given : List String

/-- A field that has to be given and whose value is kept by `store`. -/
def keep (name : String) (reader : Reader β) (store : α → β → α) : Field (Draft α) where
  name := name
  isSet draft := draft.given.contains name
  read draft room cs :=
    (reader room cs).map fun (x, rest) => (⟨store draft.value x, name :: draft.given⟩, rest)

/-- A field that has to be given. -/
def must (name : String) (reader : Reader β) : Field (Draft α) :=
  keep name reader fun value _ => value

/-- A field that may be missing or `null`, and is kept by `store` otherwise. -/
def keepOptional (name : String) (reader : Reader β) (store : α → β → α) : Field (Draft α) :=
  { keep name (readOptional reader) fun value x => (x.map (store value)).getD value with
    isOptional := true }

/-- A field that may be missing or `null`. -/
def may (name : String) (reader : Reader β) : Field (Draft α) :=
  keepOptional name reader fun value _ => value

/-- Reads an object of the given fields, starting from `empty`. -/
def read (wanted : String) (fields : List (Field (Draft α))) (empty : α) : Reader α :=
  fun room cs =>
    (readRecord ⟨wanted, fields, true, false⟩ ⟨empty, []⟩ room cs).map fun (draft, rest) =>
      (draft.value, rest)

/-- Reads an object of which nothing is kept. -/
def check (wanted : String) (fields : List (Field (Draft Unit))) : Reader Unit :=
  read wanted fields ()

end JoinBench.Json.Outline
