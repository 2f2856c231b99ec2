import JoinBench.Text.Numeral

/-!
# Command lines

The words of a command line are read from left to right into a draft, and the first word that
does not fit ends the reading: it is a mistake, or it asks for help or for the version.  What is
missing in the draft shows only afterwards, so that help can be asked for at any point before a
mistake.
-/

namespace JoinBench.CommandLine

/-- Why a command line does not lead to a run. -/
inductive Stop where
  | mistake
  | help
  | version
deriving DecidableEq, Inhabited, Repr

/-- A parameter that is gathered in a draft of type `σ`. -/
structure Parameter (σ : Type) where
  name : String
  /-- Whether the draft has a value for the parameter. -/
  isSet : σ → Bool
  /-- Puts the value that a word denotes into the draft; `none` if it denotes none. -/
  set? : String → σ → Option σ

namespace Parameter

/-- A parameter kept as an optional value of the draft. -/
def of (name : String) (get : σ → Option α) (set : σ → α → σ) (value? : String → Option α) :
  Parameter σ where
  name := name
  isSet draft := (get draft).isSome
  set? word draft := (value? word).map (set draft)

/-- Puts a value into a draft that has none yet. -/
def store (p : Parameter σ) (word : String) (draft : σ) : Except Stop σ :=
  if p.isSet draft then .error .mistake
  else
    match p.set? word draft with
    | some draft => .ok draft
    | none => .error .mistake

end Parameter

/-! ### Values -/

/-- Any text. -/
def text? (word : String) : Option String :=
  some word

/-- A path, which is not empty. -/
def path? (word : String) : Option String :=
  if word = "" then none else some word

/-- A natural number of 64 bits. -/
def number? (word : String) : Option Nat :=
  Text.readNat? Text.bound64 word.toList

/-! ### Words -/

/-- What a word of a command line is. -/
inductive Word where
  /-- A word that stands for itself. -/
  | plain (value : String)
  /-- What all further words stand for themselves behind. -/
  | divider
  /-- The name of an option, with its value if that is part of the word. -/
  | option (name : String) (value : Option String)
  /-- Options of one letter each, of which the first counts. -/
  | letters (first : Char)
deriving DecidableEq, Inhabited, Repr

/-- What a word is. -/
def Word.of (word : String) : Word :=
  match word.toList with
  | ['-', '-'] => .divider
  | '-' :: '-' :: rest =>
    let name := String.ofList (rest.takeWhile (· ≠ '='))
    match rest.dropWhile (· ≠ '=') with
    | _ :: value => .option name (some (String.ofList value))
    | [] => .option name none
  | '-' :: first :: _ => .letters first
  | _ => .plain word

/-! ### Command lines -/

/-- The parameters of a program. -/
structure Usage (σ : Type) where
  /-- The parameters with a name. -/
  options : List (Parameter σ)
  /-- The parameters without one, in order. -/
  places : List (Parameter σ)
  /-- Whether the version may be asked for. -/
  hasVersion : Bool

namespace Usage

/-- Stores a word at the next place that is left. -/
def storePlain (word : String) (draft : σ) :
  List (Parameter σ) → Except Stop (σ × List (Parameter σ))
  | [] => .error .mistake
  | place :: places => (place.store word draft).map fun draft => (draft, places)

/-- Reads words that all stand for themselves. -/
def readPlain (draft : σ) (places : List (Parameter σ)) : List String → Except Stop σ
  | [] => .ok draft
  | word :: rest =>
    match storePlain word draft places with
    | .ok (draft, places) => readPlain draft places rest
    | .error stop => .error stop

/-- What an option without a value asks for, if it is no parameter. -/
def request? (usage : Usage σ) (name : String) : Option Stop :=
  if name = "help" then some .help
  else if name = "version" ∧ usage.hasVersion = true then some .version
  else none

/-- What an option of one letter asks for. -/
def letterRequest (usage : Usage σ) (letter : Char) : Stop :=
  if letter = 'h' then .help
  else if letter = 'V' ∧ usage.hasVersion = true then .version
  else .mistake

/-- The parameter of a name. -/
def option? (usage : Usage σ) (name : String) : Option (Parameter σ) :=
  usage.options.find? (·.name = name)

/-- Reads words into a draft; `places` are left. -/
def readInto (usage : Usage σ) (draft : σ) (places : List (Parameter σ)) :
  List String → Except Stop σ
  | [] => .ok draft
  | word :: rest =>
    match Word.of word with
    | .divider => readPlain draft places rest
    | .letters first => .error (usage.letterRequest first)
    | .plain value =>
      match storePlain value draft places with
      | .ok (draft, places) => usage.readInto draft places rest
      | .error stop => .error stop
    | .option name (some value) =>
      match usage.option? name with
      | none => .error .mistake
      | some p =>
        match p.store value draft with
        | .ok draft => usage.readInto draft places rest
        | .error stop => .error stop
    | .option name none =>
      match usage.option? name, rest with
      | none, _ => .error ((usage.request? name).getD .mistake)
      | some _, [] => .error .mistake
      | some p, value :: rest =>
        match Word.of value with
        | .plain value =>
          match p.store value draft with
          | .ok draft => usage.readInto draft places rest
          | .error stop => .error stop
        | _ => .error .mistake

/-- Reads a whole command line. -/
def read (usage : Usage σ) (empty : σ) (words : List String) : Except Stop σ :=
  usage.readInto empty usage.places words

end Usage

end JoinBench.CommandLine
