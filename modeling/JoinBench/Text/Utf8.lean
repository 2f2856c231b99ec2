/-!
# Bytes as UTF-8 text

Decoding that puts the replacement character in place of what is not UTF-8.  Each replacement
stands for a longest run of bytes that begins a character and does not finish it, or for one
byte that begins none.
-/

namespace JoinBench.Text.Utf8

/-- The character in place of bytes that are not UTF-8. -/
def replacement : Char := '\ufffd'

/-- A character that was begun: what its bytes gave so far, how many bytes are missing, and the
range of the next one. -/
structure Begun where
  code : Nat
  missing : Nat
  low : UInt8
  high : UInt8

/-- What a byte is at the start of a character. -/
inductive First where
  | whole (c : Char)
  | begun (b : Begun)
  | invalid

/-- What a byte is at the start of a character.  The bounds on the byte behind it exclude
overlong forms, surrogates, and numbers beyond the last character. -/
def first (b : UInt8) : First :=
  if b < 0x80 then .whole (Char.ofNat b.toNat)
  else if b < 0xc2 then .invalid
  else if b < 0xe0 then .begun ⟨b.toNat - 0xc0, 1, 0x80, 0xbf⟩
  else if b = 0xe0 then .begun ⟨0, 2, 0xa0, 0xbf⟩
  else if b = 0xed then .begun ⟨0xd, 2, 0x80, 0x9f⟩
  else if b < 0xf0 then .begun ⟨b.toNat - 0xe0, 2, 0x80, 0xbf⟩
  else if b = 0xf0 then .begun ⟨0, 3, 0x90, 0xbf⟩
  else if b < 0xf4 then .begun ⟨b.toNat - 0xf0, 3, 0x80, 0xbf⟩
  else if b = 0xf4 then .begun ⟨4, 3, 0x80, 0x8f⟩
  else .invalid

/-- The character or the longer beginning that a next byte makes; `none` if it does not fit. -/
def Begun.next? (begun : Begun) (b : UInt8) : Option First :=
  if begun.low ≤ b ∧ b ≤ begun.high then
    let code := begun.code * 0x40 + (b.toNat - 0x80)
    if begun.missing ≤ 1 then some (.whole (Char.ofNat code))
    else some (.begun ⟨code, begun.missing - 1, 0x80, 0xbf⟩)
  else none

/-- The decoding of bytes behind the characters in `read`, which stand in reverse, and the
beginning of another one. -/
def decodeFrom (read : List Char) (open? : Option Begun) : List UInt8 → List Char
  | [] => (if open?.isSome then replacement :: read else read).reverse
  | b :: bs =>
    let fresh (read : List Char) : List Char × Option Begun :=
      match first b with
      | .whole c => (c :: read, none)
      | .begun next => (read, some next)
      | .invalid => (replacement :: read, none)
    let (read, open?) :=
      match open? with
      | none => fresh read
      | some begun =>
        match begun.next? b with
        | some (.whole c) => (c :: read, none)
        | some (.begun next) => (read, some next)
        | some .invalid => (replacement :: read, none)
        | none => fresh (replacement :: read)
    decodeFrom read open? bs

/-- The text of bytes, with replacements for what is not UTF-8. -/
def decode (bytes : List UInt8) : String :=
  String.ofList (decodeFrom [] none bytes)

/-- The number of bytes in front of the first that is not UTF-8: `whole` bytes make complete
characters and `part` bytes begin another one. -/
def validLengthFrom (whole part : Nat) (open? : Option Begun) : List UInt8 → Nat
  | [] => whole
  | b :: bs =>
    let step := match open? with
      | none => some (first b)
      | some begun => begun.next? b
    match step with
    | some (.whole _) => validLengthFrom (whole + part + 1) 0 none bs
    | some (.begun next) => validLengthFrom whole (part + 1) (some next) bs
    | some .invalid => whole
    | none => whole

/-- The number of leading bytes that are complete characters. -/
def validLength (bytes : List UInt8) : Nat :=
  validLengthFrom 0 0 none bytes

end JoinBench.Text.Utf8
