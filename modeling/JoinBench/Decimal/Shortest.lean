import JoinBench.Decimal.Double

/-!
# The shortest decimal that reads back

Among the decimals that round to a given double, the ones with the fewest digits, and of those
the nearest.  A decimal rounds to the double exactly when it lies in an interval around it,
whose ends belong to it if the mantissa is even.  For one digit, two digits and so on up to
seventeen, the two neighbours of the value on the decimal grid of that many digits are tried.
-/

namespace JoinBench.Decimal

/-- The decimal `0.d₁d₂… * 10 ^ point`, given by its digits. -/
structure Digits where
  digits : List Char
  point : Int
deriving DecidableEq, Inhabited, Repr

/-- The interval of the numbers that round to a magnitude, over a common denominator. -/
structure Interval where
  low : Nat
  value : Nat
  high : Nat
  den : Nat
  /-- Whether the ends belong to the interval. -/
  closed : Bool

/-- The interval around a double's magnitude.  Below a power of two the doubles are twice as
dense, so the lower half is half as wide there. -/
def Interval.around (x : Binary) : Interval :=
  let m := x.mantissa
  let below := if m = Nat.pow 2 (Double.bits - 1) ∧ Double.least < x.exponent then 1 else 2
  let e := x.exponent - 2
  let unit := Nat.pow 2 e.toNat
  ⟨(4 * m - below) * unit, 4 * m * unit, (4 * m + 2) * unit, Nat.pow 2 (-e).toNat, m % 2 = 0⟩

/-- The number `c` of a grid of step `10 ^ k` that lies in the interval next to its value, if
one does. -/
def Interval.candidate? (i : Interval) (k : Int) : Option Nat :=
  let step := i.den * Nat.pow 10 k.toNat
  let scale := Nat.pow 10 (-k).toNat
  let inside (c : Nat) : Bool :=
    if i.closed then i.low * scale ≤ c * step && c * step ≤ i.high * scale
    else i.low * scale < c * step && c * step < i.high * scale
  let below := i.value * scale / step
  let gapBelow := i.value * scale - below * step
  let gapAbove := (below + 1) * step - i.value * scale
  match inside below, inside (below + 1) with
  | true, true =>
    if gapBelow < gapAbove then some below
    else if gapAbove < gapBelow then some (below + 1)
    else if below % 2 = 0 then some below else some (below + 1)
  | true, false => some below
  | false, true => some (below + 1)
  | false, false => none

/-- The digits of `c * 10 ^ k` without trailing zeros. -/
def Digits.ofScaled (c : Nat) (k : Int) : Digits :=
  let all := Nat.toDigits 10 c
  ⟨(all.reverse.dropWhile (· == '0')).reverse, all.length + k⟩

/-- The shortest digits of a positive magnitude. -/
def shortestDigits (x : Binary) : Digits :=
  let i := Interval.around x
  -- the number of digits before the decimal point, or minus the number of zeros behind it
  let places : Int := ((Nat.toDigits 10 (i.value * Nat.pow 10 400 / i.den)).length : Int) - 400
  let found := (List.range 17).findSome? fun (n : Nat) =>
    let k : Int := places - (n + 1)
    (i.candidate? k).map (Digits.ofScaled · k)
  found.getD ⟨['0'], 1⟩

end JoinBench.Decimal
