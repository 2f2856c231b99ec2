import JoinBench.Csv.Fault
import JoinBench.Text.Utf8

/-!
# Reading CSV

Records end at a line feed or a carriage return, and empty lines between records are skipped.
A field that starts with a quote runs to the next single quote, a doubled quote inside it
standing for one; what follows the closing quote belongs to the field as it is.  A quote
inside any other field is data, and a quoted field that is never closed runs to the end.

The same machine reads characters and bytes: all that it looks for are four symbols of ASCII.
-/

namespace JoinBench.Csv

/-- What a table is written in. -/
class Symbol (α : Type) where
  comma : α
  quote : α
  lineFeed : α
  carriageReturn : α
  /-- The number of bytes of a symbol. -/
  width : α → Nat

instance : Symbol Char where
  comma := ','
  quote := '"'
  lineFeed := '\n'
  carriageReturn := '\r'
  width := Char.utf8Size

instance : Symbol UInt8 where
  comma := 44
  quote := 34
  lineFeed := 10
  carriageReturn := 13
  width _ := 1

/-- A record and where its reading began. -/
structure Raw (α : Type) where
  fields : List (List α)
  place : Place

/-- Where the reader stands in a record. -/
inductive Mode where
  /-- Between records. -/
  | between
  /-- At the start of a field. -/
  | opening
  /-- Inside a field without quotes, or behind the closing quote of one with quotes. -/
  | plain
  /-- Inside a quoted field. -/
  | quoted
  /-- Behind a quote inside a quoted field. -/
  | closing
deriving DecidableEq

/-- What was read so far.  Records, fields of the current record and symbols of the current
field stand in reverse. -/
structure Progress (α : Type) where
  mode : Mode
  field : List α
  fields : List (List α)
  records : List (Raw α)
  /-- Where the reading of the current record began. -/
  start : Place
  line : Nat
  byte : Nat

namespace Progress

variable {α : Type}

/-- At the start of a table, `skipped` bytes in. -/
def initial (skipped : Nat) : Progress α :=
  ⟨.between, [], [], [], ⟨0, 1, 0⟩, 1, skipped⟩

/-- Adds a symbol to the field. -/
def push (p : Progress α) (mode : Mode) (c : α) : Progress α :=
  { p with mode := mode, field := c :: p.field }

/-- Ends the field. -/
def endField (p : Progress α) : Progress α :=
  { p with mode := .opening, field := [], fields := p.field.reverse :: p.fields }

/-- Ends the record. -/
def endRecord (p : Progress α) : Progress α :=
  let fields := (p.field.reverse :: p.fields).reverse
  { p with
    mode := .between
    field := []
    fields := []
    records := ⟨fields, p.start⟩ :: p.records
    start := ⟨p.start.record + 1, p.line, p.byte⟩ }

variable [DecidableEq α] [Symbol α]

/-- Moves behind a symbol. -/
def advance (p : Progress α) (c : α) : Progress α :=
  { p with
    line := if c = Symbol.lineFeed then p.line + 1 else p.line
    byte := p.byte + Symbol.width c }

/-- Whether a symbol ends records. -/
def isTerminator (c : α) : Bool :=
  c = Symbol.lineFeed || c = Symbol.carriageReturn

/-- Takes a symbol at the start of a field. -/
def stepOpening (p : Progress α) (c : α) : Progress α :=
  if c = Symbol.quote then { p with mode := .quoted }
  else if c = Symbol.comma then p.endField
  else if isTerminator c then p.endRecord
  else p.push .plain c

/-- Takes the next symbol. -/
def step (p : Progress α) (c : α) : Progress α :=
  let p := p.advance c
  match p.mode with
  | .between => if isTerminator c then p else p.stepOpening c
  | .opening => p.stepOpening c
  | .plain =>
    if c = Symbol.comma then p.endField
    else if isTerminator c then p.endRecord
    else p.push .plain c
  | .quoted =>
    if c = Symbol.quote then { p with mode := .closing } else p.push .quoted c
  | .closing =>
    if c = Symbol.quote then p.push .quoted c
    else if c = Symbol.comma then p.endField
    else if isTerminator c then p.endRecord
    else p.push .plain c

/-- The records, the last one ended by the end of the table. -/
def finish (p : Progress α) : List (Raw α) :=
  match p.mode with
  | .between => p.records.reverse
  | _ => p.endRecord.records.reverse

end Progress

/-- The records of a table, `skipped` bytes in. -/
def rawRecords [DecidableEq α] [Symbol α] (skipped : Nat) (symbols : List α) : List (Raw α) :=
  (symbols.foldl Progress.step (Progress.initial skipped)).finish

/-- A record of texts. -/
structure TextRecord where
  fields : List String
  place : Place

/-- The records of a text; a byte-order mark at its start is not part of it. -/
def textRecords (text : String) : List TextRecord :=
  let raw := match text.toList with
    | '\ufeff' :: rest => rawRecords 3 rest
    | cs => rawRecords 0 cs
  raw.map fun r => ⟨r.fields.map String.ofList, r.place⟩

/-- The text of a field given as bytes. -/
def fieldText? (bytes : List UInt8) : Option String :=
  String.fromUTF8? ⟨bytes.toArray⟩

/-- The texts of the fields from number `index` on, or the fault of the first that is no text. -/
def fieldTexts (place : Place) (index : Nat) : List (List UInt8) → Except Fault (List String)
  | [] => .ok []
  | bytes :: rest =>
    match fieldText? bytes with
    | none => .error (.notUtf8 place index (Text.Utf8.validLength bytes))
    | some s => (fieldTexts place (index + 1) rest).map (s :: ·)

/-- A table whose records are read one after the other; what stands behind a fault is not
read. -/
structure Input where
  /-- The records, each with its texts or with the fault of a field. -/
  records : List (Nat × Place × Except Fault (List String))

/-- The table in a text. -/
def Input.ofText (text : String) : Input :=
  ⟨(textRecords text).map fun r => (r.fields.length, r.place, .ok r.fields)⟩

/-- The table in some bytes. -/
def Input.ofBytes (bytes : List UInt8) : Input :=
  let raw := match bytes with
    | 0xef :: 0xbb :: 0xbf :: rest => rawRecords 3 rest
    | bytes => rawRecords 0 bytes
  ⟨raw.map fun r => (r.fields.length, r.place, fieldTexts r.place 0 r.fields)⟩

/-- The table in the content of a file: read as a text if it is one, else byte by byte. -/
def Input.ofContent (content : ByteArray) : Input :=
  match String.fromUTF8? content with
  | some text => .ofText text
  | none => .ofBytes content.toList

/-- The records of a table in which every record has as many fields as the first one, up to the
first fault. -/
def Input.uniform (input : Input) : List (Except Fault (List String)) :=
  match input.records with
  | [] => []
  | (expected, _, header) :: rest =>
    header :: rest.map fun (found, place, texts) =>
      if found = expected then texts
      else .error (.unequalLengths (some place) found expected)

end JoinBench.Csv
