import JoinBench.Text.Visible

/-!
# Quoted text

A text between double quotes, in the form that messages show values in: quote, backslash and
the common control characters after a backslash, every other character that would not show
by itself as its number in braces.
-/

namespace JoinBench.Text

/-- The lower-case hexadecimal digits of a number. -/
def hexDigits (n : Nat) : List Char :=
  Nat.toDigits 16 n

/-- One character inside quotes. -/
def quotedChar (c : Char) : List Char :=
  match c with
  | '"' => ['\\', '"']
  | '\\' => ['\\', '\\']
  | '\n' => ['\\', 'n']
  | '\r' => ['\\', 'r']
  | '\t' => ['\\', 't']
  | '\x00' => ['\\', '0']
  | c => if isPlain c then [c] else ['\\', 'u', '\x7b'] ++ hexDigits c.toNat ++ ['\x7d']

/-- A text between double quotes. -/
def quoted (s : String) : String :=
  String.ofList ('"' :: s.toList.flatMap quotedChar ++ ['"'])

/-- A list of quoted texts between square brackets. -/
def quotedList (items : List String) : String :=
  "[" ++ String.intercalate ", " (items.map quoted) ++ "]"

/-- A set of quoted texts between braces. -/
def quotedSet (items : List String) : String :=
  "\x7b" ++ String.intercalate ", " (items.map quoted) ++ "\x7d"

end JoinBench.Text
