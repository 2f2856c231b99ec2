/-!
# Log streams

The output of a unit comes as one stream of bytes in frames.  A frame tells which stream of
the unit it belongs to and how long it is.  Output that does not come in frames is taken line
by line.
-/

namespace JoinBench.Docker

/-- Where a piece of output comes from. -/
inductive Source where
  | stdin
  | stdout
  | stderr
deriving DecidableEq, Inhabited, Repr

/-- The byte that stands for a source. -/
def Source.code : Source → UInt8
  | stdin => 0
  | stdout => 1
  | stderr => 2

/-- A piece of output. -/
structure Frame where
  source : Source
  content : List UInt8
deriving DecidableEq, Inhabited, Repr

/-- A number as four bytes, the highest first. -/
def bigEndian (n : Nat) : List UInt8 :=
  [(n / 0x1000000).toUInt8, (n / 0x10000).toUInt8, (n / 0x100).toUInt8, n.toUInt8]

/-- The number in four bytes, the highest first. -/
def ofBigEndian (a b c d : UInt8) : Nat :=
  ((a.toNat * 0x100 + b.toNat) * 0x100 + c.toNat) * 0x100 + d.toNat

/-- A frame as bytes. -/
def Frame.encode (frame : Frame) : List UInt8 :=
  [frame.source.code, 0, 0, 0] ++ bigEndian frame.content.length ++ frame.content

/-- What a stream of bytes holds. -/
structure LogStream where
  pieces : List (List UInt8)
  /-- Whether no bytes are left over behind the pieces. -/
  isWhole : Bool
deriving DecidableEq, Inhabited, Repr

namespace LogStream

/-- A stream in front of which there is another piece. -/
def cons (piece : List UInt8) (s : LogStream) : LogStream :=
  { s with pieces := piece :: s.pieces }

/-- The bytes of some frames. -/
def encode (frames : List Frame) : List UInt8 :=
  frames.flatMap Frame.encode

/-- The bytes up to the first line feed, with it, and those behind; `none` if there is no line
feed. -/
def splitLine? : List UInt8 → Option (List UInt8 × List UInt8)
  | [] => none
  | b :: rest =>
    if b = 10 then some ([b], rest)
    else (splitLine? rest).map fun (line, rest) => (b :: line, rest)

/-- The given number of bytes and those behind; `none` if there are fewer. -/
def splitBytes? (n : Nat) (bytes : List UInt8) : Option (List UInt8 × List UInt8) :=
  if bytes.length < n then none else some (bytes.take n, bytes.drop n)

/-- The first piece of a stream and what is behind it; `none` if it is not complete. -/
def next? : List UInt8 → Option (List UInt8 × List UInt8)
  | k :: rest =>
    if 2 < k then splitLine? (k :: rest)
    else
      match rest with
      | _ :: _ :: _ :: a :: b :: c :: d :: rest => splitBytes? (ofBigEndian a b c d) rest
      | _ => none
  | [] => none

/-- Whether the bytes behind the last piece do not count as left over: there are none, or they
announce a piece of which nothing came. -/
def isEnd : List UInt8 → Bool
  | [] => true
  | [k, _, _, _, _, _, _, _] => k ≤ 2
  | _ => false

theorem length_splitLine? {bytes line rest : List UInt8}
  (h : splitLine? bytes = some (line, rest)) : rest.length < bytes.length := by
  induction bytes generalizing line with
  | nil => simp [splitLine?] at h
  | cons b bs ih =>
    simp only [splitLine?] at h
    split at h
    · simp only [Option.some.injEq, Prod.mk.injEq] at h
      simp [← h.2]
    · simp only [Option.map_eq_some_iff, Prod.exists, Prod.mk.injEq] at h
      obtain ⟨_, _, hs, _, rfl⟩ := h
      exact Nat.lt_succ_of_lt (ih hs)

theorem length_splitBytes? {n : Nat} {bytes piece rest : List UInt8}
  (h : splitBytes? n bytes = some (piece, rest)) : rest.length ≤ bytes.length := by
  unfold splitBytes? at h
  split at h
  · simp at h
  · simp only [Option.some.injEq, Prod.mk.injEq] at h
    simp [← h.2]

/-- What is behind a piece is shorter than the stream. -/
theorem length_next? {bytes piece rest : List UInt8} (h : next? bytes = some (piece, rest)) :
  rest.length < bytes.length := by
  unfold next? at h
  split at h
  · split at h
    · exact length_splitLine? h
    · split at h
      · have := length_splitBytes? h
        simp only [List.length_cons]
        omega
      · simp at h
  · simp at h

/-- Takes a stream of bytes apart. -/
def decode (bytes : List UInt8) : LogStream :=
  match _h : next? bytes with
  | some (piece, rest) => (decode rest).cons piece
  | none => ⟨[], isEnd bytes⟩
termination_by bytes.length
decreasing_by exact length_next? _h

end LogStream

end JoinBench.Docker
