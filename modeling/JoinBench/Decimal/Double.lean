import JoinBench.Decimal.Rounding

/-!
# Double precision

A double is a sign and a magnitude of at most 53 bits; infinities and NaN are not among them.
`Double.ofScientific?` is the value that a decimal with a significand below `2 ^ 64` is read
as: the significand is rounded, then multiplied or divided once by the rounded power of ten,
and exponents below -308 are brought up in steps of 308.  The result can differ from the
nearest double in its last bit.
-/

namespace JoinBench.Decimal

/-- A finite value of double precision. -/
structure Double where
  negative : Bool
  magnitude : Binary
deriving DecidableEq, Inhabited, Repr

namespace Double

/-- The number of significant bits. -/
def bits : Nat := 53

/-- The least exponent. -/
def least : Int := -1074

/-- The greatest exponent. -/
def greatest : Int := 971

/-- The magnitude nearest to a quotient. -/
def nearest (num den : Nat) : Binary :=
  Binary.nearest bits least num den

/-- The double nearest to `10 ^ n`. -/
def powerOfTen (n : Nat) : Binary :=
  nearest (Nat.pow 10 n) 1

/-- The greatest power of ten with a nearest double. -/
def greatestPower : Nat := 308

/-- The magnitude that `x * 10 ^ exponent` is read as; `none` if it is too large.  After three
steps of `10 ^ 308` a value below `2 ^ 65` is zero, so four rounds are enough. -/
def scale (x : Binary) (exponent : Int) : (rounds : Nat) → Option Binary
  | 0 => some x
  | rounds + 1 =>
    if exponent.natAbs ≤ greatestPower then
      if 0 ≤ exponent then
        let y := Binary.mul bits least x (powerOfTen exponent.toNat)
        if y.exponent ≤ greatest then some y else none
      else
        some (Binary.div bits least x (powerOfTen (-exponent).toNat))
    else if x.mantissa = 0 then some x
    else if 0 ≤ exponent then none
    else
      scale (Binary.div bits least x (powerOfTen greatestPower)) (exponent + greatestPower) rounds

/-- The double that `significand * 10 ^ exponent` is read as; `none` if it is too large. -/
def ofScientific? (negative : Bool) (significand : Nat) (exponent : Int) : Option Double :=
  (scale (nearest significand 1) exponent 4).map (⟨negative, ·⟩)

/-- Zero of either sign. -/
def zero (negative : Bool) : Double :=
  ⟨negative, ⟨0, least⟩⟩

end Double

end JoinBench.Decimal
