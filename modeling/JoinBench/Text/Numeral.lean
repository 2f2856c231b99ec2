/-!
# Decimal numerals

Reading a natural number below a bound: an optional plus sign, then one or more ASCII digits,
leading zeros allowed.
-/

namespace JoinBench.Text

/-- The value of a run of ASCII digits behind the digits whose value is `acc`; `none` on any
other character. -/
def digitsValue? (acc : Nat) : List Char → Option Nat
  | [] => some acc
  | c :: rest => if c.isDigit then digitsValue? (10 * acc + (c.toNat - '0'.toNat)) rest else none

/-- The natural number that the characters denote, if it is below `bound`. -/
def readNat? (bound : Nat) (cs : List Char) : Option Nat :=
  let digits := match cs with
    | '+' :: rest => rest
    | _ => cs
  if digits.isEmpty then none else
    (digitsValue? 0 digits).filter (· < bound)

/-- The bound of the ports, 2 ^ 16. -/
def bound16 : Nat := 65536

/-- The bound of the 32-bit naturals, 2 ^ 32. -/
def bound32 : Nat := 4294967296

/-- The bound of the 64-bit naturals, 2 ^ 64. -/
def bound64 : Nat := 18446744073709551616

end JoinBench.Text
