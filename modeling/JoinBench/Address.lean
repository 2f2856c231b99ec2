import JoinBench.Text.Percent

/-!
# Addresses

The part of an address that tells a server what is asked for: a path and parameters.  Names are
put into addresses as they are, so a name with a slash, dots, a question mark or a hash changes
what the address means.
-/

namespace JoinBench

/-- A path with parameters. -/
structure Address where
  /-- The path, percent-encoded. -/
  path : String
  /-- The parameters, in ascending order. -/
  parameters : List (String × String)
deriving DecidableEq, Inhabited, Repr

namespace Address

/-! ### Paths -/

/-- The number of dots that a segment consists of, which may be spelt out; `none` if there is
anything else in it. -/
def dots? : List Char → Option Nat
  | [] => some 0
  | '.' :: rest => (dots? rest).map (· + 1)
  | '%' :: '2' :: 'e' :: rest => (dots? rest).map (· + 1)
  | '%' :: '2' :: 'E' :: rest => (dots? rest).map (· + 1)
  | _ => none

/-- Whether a segment is a letter with a colon or a bar, which nothing leads up from. -/
def isDrive : List Char → Bool
  | [c, d] => c.isAlpha && (d = ':' || d = '|')
  | c :: d :: '\\' :: _ => c.isAlpha && (d = ':' || d = '|')
  | _ => false

/-- The segments on the way up from the last of some segments, newest first. -/
def leave : List (List Char) → List (List Char)
  | [] => []
  | last :: rest => if isDrive last then last :: rest else rest

/-- Follows segments: one dot stays and two dots lead up.  A path that ends with dots ends with
a slash.  The segments so far are given newest first. -/
def follow : (done : List (List Char)) → List (List Char) → List (List Char)
  | done, [] => done.reverse
  | done, segment :: rest =>
    match dots? segment with
    | some 1 => follow (if rest.isEmpty then [] :: done else done) rest
    | some 2 => follow (if rest.isEmpty then [] :: leave done else leave done) rest
    | _ => follow (segment :: done) rest

/-- A path, which starts with a slash, without its detours. -/
def direct (path : List Char) : List Char :=
  (follow [] (path.tail.splitOn '/')).flatMap fun segment => '/' :: segment

/-! ### Parameters -/

/-- A parameter in its spelling, a name and a value. -/
def parameter (cs : List Char) : String × String :=
  (Text.percentDecode (cs.takeWhile (· ≠ '=')), Text.percentDecode (cs.dropWhile (· ≠ '=')).tail)

/-- The order of parameters: by their names, then by their values. -/
def parameterLe (a b : String × String) : Bool :=
  a.1 < b.1 || (a.1 = b.1 && a.2 ≤ b.2)

/-- The parameters that stand behind a path. -/
def parametersOf (cs : List Char) : List (String × String) :=
  (((cs.splitOn '&').filter (· ≠ [])).map parameter).mergeSort parameterLe

/-! ### Whole addresses -/

/-- The characters of an address that count: blanks and control characters at its end and line
breaks and tabs anywhere do not. -/
def significant (cs : List Char) : List Char :=
  (cs.reverse.dropWhile (·.toNat ≤ 0x20)).reverse.filter fun c =>
    !(c = '\t' || c = '\n' || c = '\r')

/-- The address that a text, which starts with a slash, stands for.  The path ends at a question
mark, the parameters end at a hash. -/
def ofText (text : String) : Address :=
  let cs := (significant text.toList).takeWhile (· ≠ '#')
  ⟨Text.percentEncode (String.ofList (direct (cs.takeWhile (· ≠ '?')))),
    parametersOf (cs.dropWhile (· ≠ '?')).tail⟩

end Address

end JoinBench
