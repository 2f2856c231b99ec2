import JoinBench.Decimal.Shortest
import JoinBench.Json.Value

/-!
# JSON text

The compact text of a value: no blanks, characters beyond ASCII as themselves, and of the
control characters only those below the space spelt out.
-/

namespace JoinBench

open Decimal (Double Digits shortestDigits)

namespace Json

/-- The four lower-case hexadecimal digits of a number below 2 ^ 16. -/
def fourHex (n : Nat) : List Char :=
  let digits := Nat.toDigits 16 n
  List.replicate (4 - digits.length) '0' ++ digits

/-- One character inside a JSON string. -/
def escape (c : Char) : List Char :=
  match c with
  | '"' => ['\\', '"']
  | '\\' => ['\\', '\\']
  | '\x08' => ['\\', 'b']
  | '\x0c' => ['\\', 'f']
  | '\n' => ['\\', 'n']
  | '\r' => ['\\', 'r']
  | '\t' => ['\\', 't']
  | c => if c.toNat < 0x20 then '\\' :: 'u' :: fourHex c.toNat else [c]

/-- A JSON string. -/
def renderText (s : String) : List Char :=
  '"' :: s.toList.flatMap escape ++ ['"']

/-- The digits of an integer, behind a minus sign if it is negative. -/
def renderInt (n : Int) : List Char :=
  if n < 0 then '-' :: Nat.toDigits 10 n.natAbs else Nat.toDigits 10 n.natAbs

/-- Digits around a decimal point, with at least one digit on either side. -/
def renderPositional (d : Digits) : List Char :=
  if d.point ≤ 0 then
    ['0', '.'] ++ List.replicate (-d.point).toNat '0' ++ d.digits
  else
    let whole := d.point.toNat
    if d.digits.length ≤ whole then
      d.digits ++ List.replicate (whole - d.digits.length) '0' ++ ['.', '0']
    else
      d.digits.take whole ++ '.' :: d.digits.drop whole

/-- One digit, the others behind a point if there are any, and a signed power of ten. -/
def renderScientific (d : Digits) : List Char :=
  let mantissa := match d.digits with
    | [] => ['0']
    | [c] => [c]
    | c :: rest => c :: '.' :: rest
  let power := d.point - 1
  mantissa ++ 'e' :: (if power < 0 then '-' else '+') :: Nat.toDigits 10 power.natAbs

/-- A double in its shortest digits: positional from `1e-5` up to below `1e16`, else with a
power of ten. -/
def renderDouble (x : Double) : List Char :=
  let digits :=
    if x.magnitude.mantissa = 0 then ['0', '.', '0'] else
      let d := shortestDigits x.magnitude
      if -5 < d.point ∧ d.point ≤ 16 then renderPositional d else renderScientific d
  if x.negative then '-' :: digits else digits

mutual

/-- The compact text of a value, as characters. -/
def render : Json → List Char
  | .null => ['n', 'u', 'l', 'l']
  | .bool true => ['t', 'r', 'u', 'e']
  | .bool false => ['f', 'a', 'l', 's', 'e']
  | .int n => renderInt n
  | .double x => renderDouble x
  | .text s => renderText s
  | .list items => '[' :: renderItems items ++ [']']
  | .object members => '\x7b' :: renderMembers members ++ ['\x7d']

/-- The texts of the items, commas between them. -/
def renderItems : List Json → List Char
  | [] => []
  | [item] => render item
  | item :: rest => render item ++ ',' :: renderItems rest

/-- The texts of the members, commas between them. -/
def renderMembers : List (String × Json) → List Char
  | [] => []
  | [(name, value)] => renderText name ++ ':' :: render value
  | (name, value) :: rest =>
    renderText name ++ ':' :: (render value ++ ',' :: renderMembers rest)

end

/-- The compact text of a value. -/
def compact (value : Json) : String :=
  String.ofList value.render

end Json

end JoinBench
