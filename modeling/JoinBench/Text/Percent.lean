import JoinBench.Text.Hexadecimal
import JoinBench.Text.Utf8

/-!
# Percent encoding

Texts as parts of an address.  In a path the bytes of some characters are spelt out; in a
parameter a plus sign stands for a blank as well.
-/

namespace JoinBench.Text

/-- Whether a character may stand in a path as it is. -/
def isPathChar (c : Char) : Bool :=
  0x20 < c.toNat && c.toNat < 0x7f && !"\"#<>?\x60\x7b\x7d".toList.contains c

/-- A byte behind a percent sign. -/
def percentByte (b : UInt8) : List Char :=
  ['%', upperHexDigit (b.toNat / 16), upperHexDigit (b.toNat % 16)]

/-- A text as part of a path: the bytes of every other character are spelt out. -/
def percentEncode (s : String) : String :=
  String.ofList (s.toList.flatMap fun c =>
    if isPathChar c then [c] else c.toString.toUTF8.toList.flatMap percentByte)

/-- The bytes that the spelling of a parameter stands for.  A percent sign that no two digits
follow stands for itself. -/
def speltBytes : List Char → List UInt8
  | [] => []
  | '%' :: a :: b :: rest =>
    match hexValue? a, hexValue? b with
    | some high, some low => (high * 16 + low).toUInt8 :: speltBytes rest
    | _, _ => 0x25 :: speltBytes (a :: b :: rest)
  | '+' :: rest => 0x20 :: speltBytes rest
  | c :: rest => c.toString.toUTF8.toList ++ speltBytes rest

/-- The text that the spelling of a parameter stands for. -/
def percentDecode (cs : List Char) : String :=
  Utf8.decode (speltBytes cs)

end JoinBench.Text
