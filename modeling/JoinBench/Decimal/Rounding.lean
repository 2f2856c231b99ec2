/-!
# Rounding to binary fractions

The value nearest to a quotient of natural numbers among those with a given number of
significant bits, ties going to the even neighbour.  Everything is exact arithmetic on natural
numbers, so the values that single and double precision would hold are known to the logic.
-/

namespace JoinBench.Decimal

/-- The magnitude `mantissa * 2 ^ exponent`. -/
structure Binary where
  mantissa : Nat
  exponent : Int
deriving DecidableEq, Inhabited, Repr

/-- The natural number nearest to `num / den`, a half going to the even neighbour. -/
def nearestNat (num den : Nat) : Nat :=
  let q := num / den
  let r := num % den
  if 2 * r < den then q
  else if den < 2 * r then q + 1
  else if q % 2 = 0 then q
  else q + 1

/-- The quotient `num / den` divided by `2 ^ e`, again as a quotient. -/
def unscale (num den : Nat) (e : Int) : Nat × Nat :=
  (num * Nat.pow 2 (-e).toNat, den * Nat.pow 2 e.toNat)

/-- The exponent at which the positive quotient `num / den` has exactly `bits` bits before the
binary point. -/
def leadingExponent (bits : Nat) (num den : Nat) : Int :=
  let e : Int := (num.log2 : Int) - den.log2
  let (n, d) := unscale num den e
  if d ≤ n then e + 1 - bits else e - bits

/-- The nearest magnitude of at most `bits` bits to `num / den`, with no exponent below
`least`. -/
def Binary.nearest (bits : Nat) (least : Int) (num den : Nat) : Binary :=
  if num = 0 then ⟨0, least⟩ else
    let e := max (leadingExponent bits num den) least
    let (n, d) := unscale num den e
    let m := nearestNat n d
    if m = Nat.pow 2 bits then ⟨Nat.pow 2 (bits - 1), e + 1⟩ else ⟨m, e⟩

/-- The magnitude as a quotient. -/
def Binary.quotient (x : Binary) : Nat × Nat :=
  (x.mantissa * Nat.pow 2 x.exponent.toNat, Nat.pow 2 (-x.exponent).toNat)

/-- Whether one magnitude is below another. -/
def Binary.lt (x y : Binary) : Bool :=
  let (a, b) := x.quotient
  let (c, d) := y.quotient
  a * d < c * b

/-- The sum, rounded. -/
def Binary.add (bits : Nat) (least : Int) (x y : Binary) : Binary :=
  let (a, b) := x.quotient
  let (c, d) := y.quotient
  Binary.nearest bits least (a * d + c * b) (b * d)

/-- The product, rounded. -/
def Binary.mul (bits : Nat) (least : Int) (x y : Binary) : Binary :=
  let (a, b) := x.quotient
  let (c, d) := y.quotient
  Binary.nearest bits least (a * c) (b * d)

/-- The quotient by a magnitude other than zero, rounded. -/
def Binary.div (bits : Nat) (least : Int) (x y : Binary) : Binary :=
  let (a, b) := x.quotient
  let (c, d) := y.quotient
  Binary.nearest bits least (a * d) (b * c)

example : Binary.nearest 24 (-149) 8 5 = ⟨13421773, -23⟩ := by decide +kernel

end JoinBench.Decimal
