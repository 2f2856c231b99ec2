import JoinBench.Decimal.Rounding
import JoinBench.Random.ChaCha
import JoinBench.Random.Source
import Std.Data.ExtTreeSet

/-!
# Draws from the stream

Numbers between two bounds by a widening multiplication, with a second word deciding about the
carry.  Samples by one of three methods: for few draws from a long range numbers are drawn one
by one, for many they are swapped to the front of the whole range; which of them is taken is
decided in single precision.
-/

namespace JoinBench.Random

open ChaCha Decimal

/-- The number of values of a word. -/
def wordRange : Nat := 4294967296

/-- A number between two bounds, both included.  The word times the number of values is taken
as a fixed-point number; where its fraction is so large that further bits could carry, a second
word gives them. -/
def drawBetween (low high : Nat) (s : Stream) : Nat × Stream :=
  let range := high - low + 1
  let (x, s) := s.next
  let whole := x * range / wordRange
  let fraction := x * range % wordRange
  if wordRange - range < fraction then
    let (y, s) := s.next
    let carry := if wordRange ≤ fraction + y * range / wordRange then 1 else 0
    (low + whole + carry, s)
  else (low + whole, s)

/-- Draws one number for every `j` from `next` on, `amount` of them, each up to its `j`; a
number that was drawn before leaves its place to `j`.  The numbers drawn stand in reverse. -/
def drawGrowing (next : Nat) (drawn : List Nat) : (amount : Nat) → Stream → List Nat × Stream
  | 0, s => (drawn.reverse, s)
  | amount + 1, s =>
    let (t, s) := drawBetween 0 next s
    let drawn := drawn.map fun d => if d = t then next else d
    drawGrowing (next + 1) (t :: drawn) amount s

/-- Swaps a drawn number from the rest to each of the places `i`, `i + 1`, …, `amount` of
them. -/
def swapForward (length i : Nat) (places : Array Nat) :
  (amount : Nat) → Stream → Array Nat × Stream
  | 0, s => (places, s)
  | amount + 1, s =>
    let (j, s) := drawBetween i (length - 1) s
    swapForward length (i + 1) (places.swapIfInBounds i j) amount s

/-- A number below `length` that is not taken.  Words in the uneven rest of the word range and
numbers that are taken are drawn again; after so many rounds without success the least free
number is the answer. -/
def drawFresh (length : Nat) (taken : Std.ExtTreeSet Nat) :
  (rounds : Nat) → Stream → Nat × Stream
  | 0, s => (((List.range length).find? fun i => !taken.contains i).getD 0, s)
  | rounds + 1, s =>
    let (x, s) := s.next
    let whole := x * length / wordRange
    let fraction := x * length % wordRange
    if fraction < (wordRange - length) % length || taken.contains whole then
      drawFresh length taken rounds s
    else (whole, s)

/-- Draws numbers below `length` that are not taken, `amount` of them, behind those in `drawn`,
which stand in reverse. -/
def drawDistinct (length : Nat) (taken : Std.ExtTreeSet Nat) (drawn : List Nat) :
  (amount : Nat) → Stream → List Nat × Stream
  | 0, s => (drawn.reverse, s)
  | amount + 1, s =>
    let (i, s) := drawFresh length taken 1000 s
    drawDistinct length (taken.insert i) (i :: drawn) amount s

/-- The methods of sampling. -/
inductive Method where
  | growing
  | swapping
  | distinct
deriving DecidableEq

/-- The single-precision value nearest to a quotient. -/
def single (num den : Nat) : Binary :=
  Binary.nearest 24 (-149) num den

/-- The method for a sample.  The thresholds are single-precision products of the amount with
constants that differ for ranges from half a million on. -/
def Method.of (length amount : Nat) : Method :=
  let mul := Binary.mul 24 (-149)
  let n := single length 1
  let k := single amount 1
  let long := 500000 ≤ length
  if amount < 163 then
    let slope := if long then single 8 45 else single 8 5
    let base := if long then single 70 9 else single 10 1
    let limit := mul (Binary.add 24 (-149) base (mul slope k)) k
    if 11 < amount ∧ n.lt limit then .swapping else .growing
  else
    let factor := if long then single 330 9 else single 270 1
    if n.lt (mul factor k) then .swapping else .distinct

/-- A sample of different numbers below a length. -/
def drawSample (length amount : Nat) (s : Stream) : List Nat × Stream :=
  match Method.of length amount with
  | .growing => drawGrowing (length - amount) [] amount s
  | .swapping =>
    let (places, s) := swapForward length 0 (Array.range length) amount s
    ((places.take amount).toList, s)
  | .distinct => drawDistinct length ∅ [] amount s

/-- The stream as a source of draws. -/
def stream : Source Stream where
  between := drawBetween
  sample := drawSample

end JoinBench.Random
