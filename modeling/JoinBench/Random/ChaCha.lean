/-!
# The stream of random words

ChaCha with twelve rounds, a block counter of 64 bits and a nonce of zero.  A seed of 64 bits
is spread over the eight words of the key by a linear congruential generator whose outputs are
rotated by their own top bits.
-/

namespace JoinBench.Random.ChaCha

/-- The sixteen words of a block. -/
abbrev Block := Vector UInt32 16

/-- A word rotated to the left. -/
def rotateLeft (x : UInt32) (n : UInt32) : UInt32 :=
  (x <<< n) ||| (x >>> (32 - n))

/-- A quarter round on four words of a block. -/
def quarterRound (i j k l : Fin 16) (s : Block) : Block :=
  let a := s[i] + s[j]
  let d := rotateLeft (s[l] ^^^ a) 16
  let c := s[k] + d
  let b := rotateLeft (s[j] ^^^ c) 12
  let a := a + b
  let d := rotateLeft (d ^^^ a) 8
  let c := c + d
  let b := rotateLeft (b ^^^ c) 7
  (((s.set i a).set j b).set k c).set l d

/-- Two rounds: one on the columns, one on the diagonals. -/
def doubleRound (s : Block) : Block :=
  let s := quarterRound 0 4 8 12 s
  let s := quarterRound 1 5 9 13 s
  let s := quarterRound 2 6 10 14 s
  let s := quarterRound 3 7 11 15 s
  let s := quarterRound 0 5 10 15 s
  let s := quarterRound 1 6 11 12 s
  let s := quarterRound 2 7 8 13 s
  quarterRound 3 4 9 14 s

/-- The words of a key. -/
abbrev Key := Vector UInt32 8

/-- The block before the first round: the constants, the key, the counter and the nonce. -/
def start (key : Key) (counter : Nat) : Block :=
  #v[0x61707865, 0x3320646e, 0x79622d32, 0x6b206574,
     key[0], key[1], key[2], key[3], key[4], key[5], key[6], key[7],
     UInt32.ofNat counter, UInt32.ofNat (counter / 0x100000000), 0, 0]

/-- The block of stream words with the given number. -/
def block (key : Key) (counter : Nat) : Block :=
  let s := start key counter
  Vector.zipWith (· + ·) (Nat.repeat doubleRound 6 s) s

/-- The next state of the generator that spreads a seed. -/
def nextSeed (s : UInt64) : UInt64 :=
  s * 6364136223846793005 + 11634580027462260723

/-- The word that a state of that generator gives. -/
def seedWord (s : UInt64) : UInt32 :=
  let x := (((s >>> 18) ^^^ s) >>> 27).toUInt32
  let n := (s >>> 59).toUInt32
  (x >>> n) ||| (x <<< ((32 - n) % 32))

/-- The key of a seed. -/
def keyOfSeed (seed : UInt64) : Key :=
  Vector.ofFn fun i => seedWord (Nat.repeat nextSeed (i.val + 1) seed)

/-- A place in the stream: the words of the current block that are left, and the number of the
next block. -/
structure Stream where
  key : Key
  counter : Nat
  words : List UInt32

/-- The beginning of the stream of a seed. -/
def Stream.ofSeed (seed : Nat) : Stream :=
  ⟨keyOfSeed (UInt64.ofNat seed), 0, []⟩

/-- The next word, as a number below 2 ^ 32. -/
def Stream.next (s : Stream) : Nat × Stream :=
  match s.words with
  | w :: words => (w.toNat, { s with words := words })
  | [] =>
    match (block s.key s.counter).toList with
    | w :: words => (w.toNat, { s with counter := s.counter + 1, words := words })
    | [] => (0, s)

end JoinBench.Random.ChaCha
