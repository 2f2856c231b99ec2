import JoinBench.Json.Reader

/-!
# Reading JSON as values of a type

Readers for numbers, strings, lists, maps and records.  They work on the text itself, so of
several things wrong with a text the first one is reported, be it a fault of the syntax, a
value of the wrong type or an unknown field.

A record is described by its fields.  It is read from an object, whose members may come in any
order, or from a list of the values of its fields in their order.
-/

namespace JoinBench.Json

/-! ### Skipping a value -/

/-- Skips an exponent, if one follows. -/
def skipExponent (cs : List Char) : Except Fault (List Char) :=
  match cs with
  | c :: rest =>
    if c = 'e' ∨ c = 'E' then
      let digits := match rest with
        | '+' :: tail => tail
        | '-' :: tail => tail
        | _ => rest
      match digits with
      | d :: tail =>
        if d.isDigit then .ok (tail.dropWhile Char.isDigit)
        else .error (.on .invalidNumber digits)
      | [] => .error (.before .invalidNumber [])
    else .ok cs
  | [] => .ok []

/-- Skips a fraction and an exponent, if they follow. -/
def skipFraction (cs : List Char) : Except Fault (List Char) :=
  match cs with
  | '.' :: rest =>
    match rest with
    | c :: tail =>
      if c.isDigit then skipExponent (tail.dropWhile Char.isDigit)
      else .error (.on .invalidNumber rest)
    | [] => .error (.before .invalidNumber [])
  | _ => skipExponent cs

/-- Skips a number behind its sign. -/
def skipNumber : List Char → Except Fault (List Char)
  | '0' :: rest =>
    match rest with
    | c :: _ => if c.isDigit then .error (.on .invalidNumber rest) else skipFraction rest
    | [] => .ok []
  | c :: rest =>
    if c.isDigit then skipFraction (rest.dropWhile Char.isDigit)
    else .error (.on .invalidNumber (c :: rest))
  | [] => .error (.before .invalidNumber [])

/-- Skips a string behind its opening quote. -/
def skipText : (rounds : Nat) → List Char → Except Fault (List Char)
  | 0, _ => .error (.before .endInText [])
  | _ + 1, [] => .error (.before .endInText [])
  | rounds + 1, c :: rest =>
    if c = '"' then .ok rest
    else if c = '\\' then
      match rest with
      | 'u' :: rest =>
        match readHex rest with
        | .ok (_, rest) => skipText rounds rest
        | .error fault => .error fault
      | _ =>
        match readEscape rest with
        | .ok (_, rest) => skipText rounds rest
        | .error fault => .error fault
    else if c.toNat < 0x20 then .error (.before .controlCharacter (c :: rest))
    else skipText rounds rest

mutual

/-- Skips a value of any depth.  Strings need not hold paired surrogates and numbers may be of
any size.  Two rounds for each character are enough. -/
def skipValue : (rounds : Nat) → List Char → Except Fault (List Char)
  | 0, _ => .error (.before .endInValue [])
  | rounds + 1, cs =>
    match skipSpace cs with
    | [] => .error (.before .endInValue [])
    | 'n' :: rest => readWord ['u', 'l', 'l'] rest
    | 't' :: rest => readWord ['r', 'u', 'e'] rest
    | 'f' :: rest => readWord ['a', 'l', 's', 'e'] rest
    | '"' :: rest => skipText rounds rest
    | '[' :: rest =>
      match skipSpace rest with
      | [] => .error (.before .endInList [])
      | ']' :: rest => .ok rest
      | rest => skipItems rounds rest
    | '\x7b' :: rest =>
      match skipSpace rest with
      | [] => .error (.before .endInObject [])
      | '\x7d' :: rest => .ok rest
      | rest => skipMembers rounds rest
    | '-' :: rest => skipNumber rest
    | c :: rest =>
      if c.isDigit then skipNumber (c :: rest) else .error (.on .expectedValue (c :: rest))

/-- Skips the items of a list from its next item on. -/
def skipItems : (rounds : Nat) → List Char → Except Fault (List Char)
  | 0, _ => .error (.before .endInList [])
  | rounds + 1, cs =>
    match skipValue rounds cs with
    | .error fault => .error fault
    | .ok rest =>
      match skipSpace rest with
      | [] => .error (.before .endInList [])
      | ',' :: rest => skipItems rounds rest
      | ']' :: rest => .ok rest
      | rest => .error (.on .expectedCommaOrBracket rest)

/-- Skips the members of an object from its next member on. -/
def skipMembers : (rounds : Nat) → List Char → Except Fault (List Char)
  | 0, _ => .error (.before .endInObject [])
  | rounds + 1, cs =>
    match skipSpace cs with
    | [] => .error (.before .endInObject [])
    | '"' :: rest =>
      match skipText rounds rest with
      | .error fault => .error fault
      | .ok rest =>
        match readColon rest with
        | .error fault => .error fault
        | .ok rest =>
          match skipValue rounds rest with
          | .error fault => .error fault
          | .ok rest =>
            match skipSpace rest with
            | [] => .error (.before .endInObject [])
            | ',' :: rest => skipMembers rounds rest
            | '\x7d' :: rest => .ok rest
            | rest => .error (.on .expectedCommaOrBrace rest)
    | rest => .error (.on .nameNotText rest)

end

/-! ### Single values -/

/-- The fault of a value that is not of the wanted type; `cs` starts with it. -/
def wrongType (wanted : String) (cs : List Char) : Fault :=
  let behind (found : Found) : Except Fault (List Char) → Fault
    | .ok rest => .before (.wrongType found wanted) rest
    | .error fault => fault
  let number : Reading Number → Fault
    | .ok (.int n, rest) => .before (.wrongType (.int n) wanted) rest
    | .ok (.double x, rest) => .before (.wrongType (.double x) wanted) rest
    | .error fault => fault
  match cs with
  | 'n' :: rest => behind .null (readWord ['u', 'l', 'l'] rest)
  | 't' :: rest => behind (.bool true) (readWord ['r', 'u', 'e'] rest)
  | 'f' :: rest => behind (.bool false) (readWord ['a', 'l', 's', 'e'] rest)
  | '"' :: rest =>
    match readTextBody rest with
    | .ok (s, rest) => .before (.wrongType (.text s) wanted) rest
    | .error fault => fault
  | '[' :: _ => .before (.wrongType .list wanted) cs
  | '\x7b' :: _ => .before (.wrongType .object wanted) cs
  | '-' :: rest => number (readDigits true rest)
  | c :: _ => if c.isDigit then number (readDigits false cs) else .on .expectedValue cs
  | [] => .before .endInValue []

/-- Reads an integer from `low` on and below `bound`; `wanted` names its type. -/
def readInteger (wanted : String) (low bound : Int) : Reader Int := fun _ cs =>
  let settle : Reading Number → Reading Int
    | .ok (.int n, rest) =>
      if low ≤ n ∧ n < bound then .ok (n, rest)
      else .error (.before (.outOfRange n wanted) rest)
    | .ok (.double x, rest) => .error (.before (.wrongType (.double x) wanted) rest)
    | .error fault => .error fault
  match skipSpace cs with
  | [] => .error (.before .endInValue [])
  | '-' :: rest => settle (readDigits true rest)
  | c :: rest =>
    if c.isDigit then settle (readDigits false (c :: rest))
    else .error (wrongType wanted (c :: rest))

/-- Reads a natural number below `bound`; `wanted` names its type. -/
def readNat (wanted : String) (bound : Nat) : Reader Nat := fun room cs =>
  (readInteger wanted 0 bound room cs).map fun (n, rest) => (n.toNat, rest)

/-- Reads a string. -/
def readText : Reader String := fun _ cs =>
  match skipSpace cs with
  | [] => .error (.before .endInValue [])
  | '"' :: rest => readTextBody rest
  | rest => .error (wrongType "a string" rest)

/-- Reads a truth value. -/
def readBool : Reader Bool := fun _ cs =>
  match skipSpace cs with
  | [] => .error (.before .endInValue [])
  | 't' :: rest => (readWord ['r', 'u', 'e'] rest).map fun rest => (true, rest)
  | 'f' :: rest => (readWord ['a', 'l', 's', 'e'] rest).map fun rest => (false, rest)
  | rest => .error (wrongType "a boolean" rest)

/-- Reads a number of any kind; `wanted` names its type. -/
def readNumber (wanted : String) : Reader Number := fun _ cs =>
  match skipSpace cs with
  | [] => .error (.before .endInValue [])
  | '-' :: rest => readDigits true rest
  | c :: rest =>
    if c.isDigit then readDigits false (c :: rest) else .error (wrongType wanted (c :: rest))

/-- Reads `null` as `none` and everything else by the given reader. -/
def readOptional (reader : Reader α) : Reader (Option α) := fun room cs =>
  match skipSpace cs with
  | 'n' :: rest => (readWord ['u', 'l', 'l'] rest).map fun rest => (none, rest)
  | rest => (reader room rest).map fun (x, rest) => (some x, rest)

/-- Reads a list of values. -/
def readList (item : Reader α) : Reader (List α) := fun room cs =>
  match skipSpace cs with
  | [] => .error (.before .endInValue [])
  | '[' :: rest =>
    match room with
    | 0 => .error (.on .nestedTooDeep ('[' :: rest))
    | room + 1 => readItems (item room) [] (rest.length + 1) rest
  | rest => .error (wrongType "a sequence" rest)

/-- Reads an object as the ascending list of its members. -/
def readMap (value : Reader α) : Reader (List (String × α)) := fun room cs =>
  match skipSpace cs with
  | [] => .error (.before .endInValue [])
  | '\x7b' :: rest =>
    match room with
    | 0 => .error (.on .nestedTooDeep ('\x7b' :: rest))
    | room + 1 => readMembers (storeMember (value room)) true [] (rest.length + 1) rest
  | rest => .error (wrongType "a map" rest)

/-! ### Choices -/

/-- Reads one of the given names behind its opening quote. -/
def readChoiceBody (names : List String) (cs : List Char) : Reading String :=
  match readTextBody cs with
  | .error fault => .error fault
  | .ok (name, rest) =>
    if names.contains name then .ok (name, rest)
    else .error (.before (.unknownChoice name names) rest)

/-- Reads the value of a choice that is written as the only member of an object, behind the name
of the member: it is `null`. -/
def readChoiceEnd (name : String) (cs : List Char) : Reading String :=
  match readColon cs with
  | .error fault => .error fault
  | .ok cs =>
    match skipSpace cs with
    | [] => .error (.before .endInValue [])
    | 'n' :: rest =>
      match readWord ['u', 'l', 'l'] rest with
      | .error fault => .error fault
      | .ok rest =>
        match skipSpace rest with
        | [] => .error (.before .endInObject [])
        | '\x7d' :: rest => .ok (name, rest)
        | rest => .error (.before .expectedValue rest)
    | rest => .error (wrongType "unit" rest)

/-- Reads one of the given names, which may also be the name of the only member of an object. -/
def readChoice (names : List String) : Reader String := fun room cs =>
  match skipSpace cs with
  | [] => .error (.before .endInValue [])
  | '"' :: rest => readChoiceBody names rest
  | '\x7b' :: rest =>
    match room with
    | 0 => .error (.on .nestedTooDeep ('\x7b' :: rest))
    | _ + 1 =>
      match skipSpace rest with
      | [] => .error (.before .endInValue [])
      | '"' :: rest =>
        match readChoiceBody names rest with
        | .error fault => .error fault
        | .ok (name, rest) => readChoiceEnd name rest
      | rest => .error (wrongType "variant identifier" rest)
  | rest => .error (.on .expectedValue rest)

/-! ### Records -/

/-- A field of a record that is gathered in a draft of type `σ`. -/
structure Field (σ : Type) where
  name : String
  /-- Further names of the field. -/
  aliases : List String := []
  /-- Whether an object may lack the field. -/
  isOptional : Bool := false
  /-- Whether the draft has a value for the field. -/
  isSet : σ → Bool
  /-- Reads a value into the draft. -/
  read : σ → Reader σ

/-- A field kept as an optional value of the draft. -/
def Field.of (name : String) (get : σ → Option α) (set : σ → α → σ) (reader : Reader α) :
  Field σ where
  name := name
  isSet draft := (get draft).isSome
  read draft room cs := (reader room cs).map fun (x, rest) => (set draft x, rest)

/-- Whether a member of the given name sets a field. -/
def Field.isNamed (field : Field σ) (name : String) : Bool :=
  field.name = name || field.aliases.contains name

/-- How a record is read. -/
structure Record (σ : Type) where
  /-- The name that messages give the type. -/
  wanted : String
  fields : List (Field σ)
  /-- Whether every field has to be given, except that an object may lack optional ones. -/
  required : Bool
  /-- Whether members of other names are an error. -/
  closed : Bool

/-- A fault with the name of a member: it is met behind the name, the blanks that follow, and
the closing brace if that stands there. -/
def nameFault (problem : Problem) (cs : List Char) : Fault :=
  match skipSpace cs with
  | '\x7d' :: rest => .before problem rest
  | rest => .before problem rest

/-- Reads a member of a record behind its name. -/
def readField (record : Record σ) (room : Nat) (draft : σ) (name : String) (cs : List Char) :
  Reading σ :=
  match record.fields.find? (·.isNamed name) with
  | none =>
    if record.closed then
      .error (nameFault (.unknownField name (record.fields.map (·.name))) cs)
    else
      match readColon cs with
      | .ok rest => (skipValue (2 * rest.length + 2) rest).map fun rest => (draft, rest)
      | .error fault => .error fault
  | some field =>
    if field.isSet draft then .error (nameFault (.duplicateField field.name) cs)
    else
      match readColon cs with
      | .ok rest => field.read draft room rest
      | .error fault => .error fault

/-- The first field that a complete draft must have and this one lacks. -/
def Record.missing? (record : Record σ) (draft : σ) : Option (Field σ) :=
  if record.required then
    record.fields.find? fun field => !field.isOptional && !field.isSet draft
  else none

/-- Reads what closes a list in which no more values are wanted. -/
def readListEnd (cs : List Char) : Except Fault (List Char) :=
  match skipSpace cs with
  | [] => .error (.before .endInList [])
  | ']' :: rest => .ok rest
  | ',' :: rest =>
    match skipSpace rest with
    | ']' :: rest => .error (.on .trailingComma (']' :: rest))
    | rest => .error (.on .trailingCharacters rest)
  | rest => .error (.on .trailingCharacters rest)

/-- Words for a number of fields. -/
def fieldCount (n : Nat) : String :=
  n.repr ++ if n = 1 then " element" else " elements"

/-- Reads the values of the fields from a list behind its opening bracket; `done` of them are
in the draft. -/
def readFields (record : Record σ) (room : Nat) :
  (done : Nat) → (draft : σ) → List (Field σ) → List Char → Reading σ
  | _, draft, [], cs => (readListEnd cs).map fun rest => (draft, rest)
  | done, draft, field :: fields, cs =>
    match skipSpace cs with
    | [] => .error (.before .endInList [])
    | ']' :: rest =>
      if record.required then
        .error (.before (.wrongLength done
          (record.wanted ++ " with " ++ fieldCount record.fields.length)) rest)
      else .ok (draft, rest)
    | c :: rest =>
      if done = 0 then
        match field.read draft room (c :: rest) with
        | .ok (draft, rest) => readFields record room 1 draft fields rest
        | .error fault => .error fault
      else if c = ',' then
        match skipSpace rest with
        | [] => .error (.before .endInValue [])
        | ']' :: rest => .error (.on .trailingComma (']' :: rest))
        | rest =>
          match field.read draft room rest with
          | .ok (draft, rest) => readFields record room (done + 1) draft fields rest
          | .error fault => .error fault
      else .error (.on .expectedCommaOrBracket (c :: rest))

/-- Reads a record into a draft that starts as `empty`. -/
def readRecord (record : Record σ) (empty : σ) : Reader σ := fun room cs =>
  match skipSpace cs with
  | [] => .error (.before .endInValue [])
  | '[' :: rest =>
    match room with
    | 0 => .error (.on .nestedTooDeep ('[' :: rest))
    | room + 1 => readFields record room 0 empty record.fields rest
  | '\x7b' :: rest =>
    match room with
    | 0 => .error (.on .nestedTooDeep ('\x7b' :: rest))
    | room + 1 =>
      match readMembers (readField record room) true empty (rest.length + 1) rest with
      | .error fault => .error fault
      | .ok (draft, rest) =>
        match record.missing? draft with
        | some field => .error (.before (.missingField field.name) rest)
        | none => .ok (draft, rest)
  | rest => .error (wrongType record.wanted rest)

end JoinBench.Json
