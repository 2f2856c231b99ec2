import JoinBench.Json.Fault
import JoinBench.Text.Hexadecimal

/-!
# Reading JSON

A reader takes the characters that are left of a text and gives what it read and what is left
then, or the first fault.  Readers of lists and objects are told by `room` how many brackets
may still open, which is 127 for a whole text.
-/

namespace JoinBench.Json

open Decimal (Double)
open Text (hexValue?)

/-- The outcome of reading from some characters. -/
abbrev Reading (α : Type) := Except Fault (α × List Char)

/-- A reader of values of a type, given how many brackets may still open. -/
abbrev Reader (α : Type) := (room : Nat) → List Char → Reading α

/-- How many brackets may be open at once. -/
def maxNesting : Nat := 127

/-- The four blanks of JSON. -/
def isSpace (c : Char) : Bool :=
  c = ' ' || c = '\n' || c = '\t' || c = '\r'

/-- What is left behind the blanks. -/
def skipSpace (cs : List Char) : List Char :=
  cs.dropWhile isSpace

/-- Reads the rest of a word. -/
def readWord : (word : List Char) → List Char → Except Fault (List Char)
  | [], cs => .ok cs
  | _ :: _, [] => .error (.before .endInValue [])
  | w :: word, c :: cs =>
    if w = c then readWord word cs else .error (.on .expectedWord (c :: cs))

/-! ### Numbers -/

/-- A number as it is read. -/
inductive Number where
  | int (value : Int)
  | double (value : Double)

/-- The value of an ASCII digit. -/
def digitValue (c : Char) : Nat :=
  c.toNat - '0'.toNat

/-- Adds digits to a significand while it stays below 2 ^ 64.  Gives the significand, how many
digits were added, whether digits had to be left out, and the characters from the first digit
left out. -/
def addDigits (significand added : Nat) : List Char → Nat × Nat × Bool × List Char
  | [] => (significand, added, false, [])
  | c :: cs =>
    if c.isDigit then
      let next := 10 * significand + digitValue c
      if next < 18446744073709551616 then addDigits next (added + 1) cs
      else (significand, added, true, c :: cs)
    else (significand, added, false, c :: cs)

/-- The double of a significand and a power of ten. -/
def doubleOf (negative : Bool) (significand : Nat) (exponent : Int) (cs : List Char) :
  Reading Number :=
  match Double.ofScientific? negative significand exponent with
  | some x => .ok (.double x, cs)
  | none => .error (.before .numberOutOfRange cs)

/-- Adds digits to an exponent while it stays below 2 ^ 31; `none` with what is left behind the
digit that went too far. -/
def addExponent (exponent : Nat) : List Char → Option Nat × List Char
  | [] => (some exponent, [])
  | c :: cs =>
    if c.isDigit then
      let next := 10 * exponent + digitValue c
      if next < 2147483648 then addExponent next cs else (none, cs)
    else (some exponent, c :: cs)

/-- Reads an exponent behind its letter. -/
def readExponent (negative : Bool) (significand : Nat) (exponent : Int) (cs : List Char) :
  Reading Number :=
  let (down, cs) := match cs with
    | '-' :: rest => (true, rest)
    | '+' :: rest => (false, rest)
    | _ => (false, cs)
  match cs with
  | [] => .error (.before .endInValue [])
  | c :: rest =>
    if c.isDigit then
      match addExponent (digitValue c) rest with
      | (some e, rest) =>
        doubleOf negative significand (if down then exponent - e else exponent + e) rest
      | (none, rest) =>
        if significand ≠ 0 ∧ !down then .error (.before .numberOutOfRange rest)
        else .ok (.double (.zero negative), rest.dropWhile Char.isDigit)
    else .error (.on .invalidNumber (c :: rest))

/-- Reads what follows the digits of a number that is no integer, if an exponent does. -/
def readScaled (negative : Bool) (significand : Nat) (exponent : Int) (cs : List Char) :
  Reading Number :=
  match cs with
  | 'e' :: rest => readExponent negative significand exponent rest
  | 'E' :: rest => readExponent negative significand exponent rest
  | _ => doubleOf negative significand exponent cs

/-- Reads a fraction behind its point. -/
def readFraction (negative : Bool) (significand : Nat) (exponent : Int) (cs : List Char) :
  Reading Number :=
  match addDigits significand 0 cs with
  | (significand, added, true, rest) =>
    readScaled negative significand (exponent - added) (rest.dropWhile Char.isDigit)
  | (_, 0, false, []) => .error (.before .endInValue [])
  | (_, 0, false, rest) => .error (.on .invalidNumber rest)
  | (significand, added, false, rest) =>
    readScaled negative significand (exponent - added) rest

/-- Reads what follows the integer digits of a number. -/
def readBehindInteger (negative : Bool) (significand : Nat) (cs : List Char) : Reading Number :=
  match cs with
  | '.' :: rest => readFraction negative significand 0 rest
  | 'e' :: rest => readExponent negative significand 0 rest
  | 'E' :: rest => readExponent negative significand 0 rest
  | _ =>
    if !negative then .ok (.int significand, cs)
    else if 0 < significand ∧ significand ≤ 9223372036854775808 then
      .ok (.int (-significand), cs)
    else .ok (.double ⟨true, Double.nearest significand 1⟩, cs)

/-- Reads what follows integer digits of which `left` digits had no room in the significand. -/
def readBehindLong (negative : Bool) (significand left : Nat) (cs : List Char) :
  Reading Number :=
  match cs with
  | '.' :: rest => readFraction negative significand left rest
  | _ => readScaled negative significand left cs

/-- Reads a number behind its sign. -/
def readDigits (negative : Bool) : List Char → Reading Number
  | [] => .error (.before .endInValue [])
  | '0' :: rest =>
    match rest with
    | c :: _ =>
      if c.isDigit then .error (.on .invalidNumber rest) else readBehindInteger negative 0 rest
    | [] => readBehindInteger negative 0 []
  | c :: rest =>
    if c.isDigit then
      match addDigits (digitValue c) 0 rest with
      | (significand, _, false, rest) => readBehindInteger negative significand rest
      | (significand, _, true, rest) =>
        let digits := rest.takeWhile Char.isDigit
        readBehindLong negative significand digits.length (rest.drop digits.length)
    else .error (.on .invalidNumber (c :: rest))

/-! ### Strings -/

/-- The value of four hexadecimal digits. -/
def hexValue4? (a b c d : Char) : Option Nat := do
  let a ← hexValue? a
  let b ← hexValue? b
  let c ← hexValue? c
  let d ← hexValue? d
  return ((a * 16 + b) * 16 + c) * 16 + d

/-- The fault of four bytes that are not hexadecimal digits, or of fewer than four. -/
def noHex (cs : List Char) : Fault :=
  let size := byteLength cs
  if 4 ≤ size then ⟨.invalidEscape, size - 4⟩ else ⟨.endInText, 0⟩

/-- Reads four hexadecimal digits. -/
def readHex (cs : List Char) : Reading Nat :=
  match cs with
  | a :: b :: c :: d :: rest =>
    match hexValue4? a b c d with
    | some n => .ok (n, rest)
    | none => .error (noHex cs)
  | _ => .error (noHex cs)

/-- Whether a number is the first half of a surrogate pair. -/
def isHighSurrogate (n : Nat) : Bool :=
  0xd800 ≤ n && n ≤ 0xdbff

/-- Whether a number is the second half of a surrogate pair. -/
def isLowSurrogate (n : Nat) : Bool :=
  0xdc00 ≤ n && n ≤ 0xdfff

/-- Reads the character of a `\u` escape, which may take a second escape for the other half of
a surrogate pair. -/
def readUnicode (cs : List Char) : Except Fault (Char × List Char) := do
  let (n, rest) ← readHex cs
  if isLowSurrogate n then .error (.before .unpairedSurrogate rest)
  else if isHighSurrogate n then
    match rest with
    | [] => .error (.before .endInText [])
    | '\\' :: [] => .error (.before .endInText [])
    | '\\' :: 'u' :: rest =>
      let (m, rest) ← readHex rest
      if isLowSurrogate m then
        .ok (Char.ofNat (0x10000 + (n - 0xd800) * 0x400 + (m - 0xdc00)), rest)
      else .error (.before .unpairedSurrogate rest)
    | '\\' :: rest => .error (.on .cutSurrogate rest)
    | _ => .error (.on .cutSurrogate rest)
  else .ok (Char.ofNat n, rest)

/-- Reads an escape behind its backslash. -/
def readEscape : List Char → Reading Char
  | [] => .error (.before .endInText [])
  | '"' :: rest => .ok ('"', rest)
  | '\\' :: rest => .ok ('\\', rest)
  | '/' :: rest => .ok ('/', rest)
  | 'b' :: rest => .ok ('\x08', rest)
  | 'f' :: rest => .ok ('\x0c', rest)
  | 'n' :: rest => .ok ('\n', rest)
  | 'r' :: rest => .ok ('\r', rest)
  | 't' :: rest => .ok ('\t', rest)
  | 'u' :: rest => readUnicode rest
  | rest => .error (.on .invalidEscape rest)

/-- Reads characters up to the closing quote behind the characters in `read`, which stand in
reverse.  Each round takes a character, so as many rounds as characters are enough. -/
def readChars (read : List Char) : (rounds : Nat) → List Char → Reading (List Char)
  | 0, _ => .error (.before .endInText [])
  | _ + 1, [] => .error (.before .endInText [])
  | rounds + 1, c :: rest =>
    if c = '"' then .ok (read.reverse, rest)
    else if c = '\\' then
      match readEscape rest with
      | .ok (e, rest) => readChars (e :: read) rounds rest
      | .error fault => .error fault
    else if c.toNat < 0x20 then .error (.on .controlCharacter (c :: rest))
    else readChars (c :: read) rounds rest

/-- Reads a string behind its opening quote. -/
def readTextBody (cs : List Char) : Reading String :=
  (readChars [] (cs.length + 1) cs).map fun (chars, rest) => (String.ofList chars, rest)

/-! ### Lists and objects -/

/-- Reads the items of a list behind its opening bracket, after the items in `read`, which
stand in reverse.  Each round takes a character. -/
def readItems (item : List Char → Reading α) (read : List α) :
  (rounds : Nat) → List Char → Reading (List α)
  | 0, _ => .error (.before .endInList [])
  | rounds + 1, cs =>
    match skipSpace cs with
    | [] => .error (.before .endInList [])
    | ']' :: rest => .ok (read.reverse, rest)
    | c :: rest =>
      if read.isEmpty then
        match item (c :: rest) with
        | .ok (x, rest) => readItems item [x] rounds rest
        | .error fault => .error fault
      else if c = ',' then
        match skipSpace rest with
        | [] => .error (.before .endInValue [])
        | ']' :: rest => .error (.on .trailingComma (']' :: rest))
        | rest =>
          match item rest with
          | .ok (x, rest) => readItems item (x :: read) rounds rest
          | .error fault => .error fault
      else .error (.on .expectedCommaOrBracket (c :: rest))

/-- Reads the colon behind the name of a member. -/
def readColon (cs : List Char) : Except Fault (List Char) :=
  match skipSpace cs with
  | [] => .error (.before .endInObject [])
  | ':' :: rest => .ok rest
  | rest => .error (.on .expectedColon rest)

/-- Reads the members of an object behind its opening brace.  `member` is given what was
gathered so far, the name, and the characters behind the name. -/
def readMembers (member : σ → String → List Char → Reading σ) (first : Bool) (gathered : σ) :
  (rounds : Nat) → List Char → Reading σ
  | 0, _ => .error (.before .endInObject [])
  | rounds + 1, cs =>
    match skipSpace cs with
    | [] => .error (.before .endInObject [])
    | '\x7d' :: rest => .ok (gathered, rest)
    | c :: rest =>
      if first then
        if c = '"' then
          match readTextBody rest with
          | .ok (name, rest) =>
            match member gathered name rest with
            | .ok (gathered, rest) => readMembers member false gathered rounds rest
            | .error fault => .error fault
          | .error fault => .error fault
        else .error (.on .nameNotText (c :: rest))
      else if c = ',' then
        match skipSpace rest with
        | [] => .error (.before .endInValue [])
        | '"' :: rest =>
          match readTextBody rest with
          | .ok (name, rest) =>
            match member gathered name rest with
            | .ok (gathered, rest) => readMembers member false gathered rounds rest
            | .error fault => .error fault
          | .error fault => .error fault
        | '\x7d' :: rest => .error (.on .trailingComma ('\x7d' :: rest))
        | rest => .error (.on .nameNotText rest)
      else .error (.on .expectedCommaOrBrace (c :: rest))

/-- Stores the value of a member under its name. -/
def storeMember (value : List Char → Reading α) (gathered : List (String × α)) (name : String)
    (cs : List Char) : Except Fault (List (String × α) × List Char) := do
  let cs ← readColon cs
  let (x, cs) ← value cs
  return (put name x gathered, cs)

/-! ### Values -/

/-- Reads a value; `inner` reads the values inside brackets, and is missing if no bracket may
open. -/
def readWith (inner : Option (List Char → Reading Json)) (cs : List Char) : Reading Json :=
  match skipSpace cs with
  | [] => .error (.before .endInValue [])
  | 'n' :: rest => (readWord ['u', 'l', 'l'] rest).map fun rest => (.null, rest)
  | 't' :: rest => (readWord ['r', 'u', 'e'] rest).map fun rest => (.bool true, rest)
  | 'f' :: rest => (readWord ['a', 'l', 's', 'e'] rest).map fun rest => (.bool false, rest)
  | '"' :: rest => (readTextBody rest).map fun (s, rest) => (.text s, rest)
  | '[' :: rest =>
    match inner with
    | none => .error (.on .nestedTooDeep ('[' :: rest))
    | some inner =>
      (readItems inner [] (rest.length + 1) rest).map fun (items, rest) => (.list items, rest)
  | '\x7b' :: rest =>
    match inner with
    | none => .error (.on .nestedTooDeep ('\x7b' :: rest))
    | some inner =>
      (readMembers (storeMember inner) true [] (rest.length + 1) rest).map
        fun (members, rest) => (.object members, rest)
  | c :: rest =>
    if c = '-' then (readDigits true rest).map ofNumber
    else if c.isDigit then (readDigits false (c :: rest)).map ofNumber
    else .error (.on .expectedValue (c :: rest))
where
  /-- A number as a value. -/
  ofNumber : Number × List Char → Json × List Char
    | (.int n, rest) => (.int n, rest)
    | (.double x, rest) => (.double x, rest)

/-- Reads any value. -/
def readValue : Reader Json
  | 0 => readWith none
  | room + 1 => readWith (some (readValue room))

/-- What a whole text holds, read by the given reader. -/
def ofText (reader : Reader α) (text : String) : Except Fault α := do
  let (value, rest) ← reader maxNesting text.toList
  match skipSpace rest with
  | [] => return value
  | rest => .error (.on .trailingCharacters rest)

/-- The value that a whole text holds. -/
def parse (text : String) : Except Fault Json :=
  ofText readValue text

end JoinBench.Json
