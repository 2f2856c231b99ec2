/-!
# Blank characters

The characters with the Unicode property `White_Space`, and cutting them off both ends of a
text.  Validation, trimming and splitting all go by this one set.
-/

namespace JoinBench.Text

/-- Whether a character has the Unicode property `White_Space`. -/
def isBlank (c : Char) : Bool :=
  let n := c.toNat
  (9 ≤ n && n ≤ 13) || n == 0x20 || n == 0x85 || n == 0xa0 || n == 0x1680
    || (0x2000 ≤ n && n ≤ 0x200a) || n == 0x2028 || n == 0x2029 || n == 0x202f
    || n == 0x205f || n == 0x3000

/-- The characters without the blanks at either end. -/
def trimBlanks (cs : List Char) : List Char :=
  ((cs.dropWhile isBlank).reverse.dropWhile isBlank).reverse

/-- The text without the blanks at either end. -/
def trim (s : String) : String :=
  String.ofList (trimBlanks s.toList)

/-- Whether a text has nothing but blanks. -/
def allBlank (s : String) : Bool :=
  s.toList.all isBlank

/-- Whether a text has a blank anywhere. -/
def hasBlank (s : String) : Bool :=
  s.toList.any isBlank

/-- The blank-separated words of a text, none of them empty. -/
def words (cs : List Char) : List (List Char) :=
  go [] cs
where
  /-- Collects words behind an unfinished word, whose characters stand in reverse. -/
  go (word : List Char) : List Char → List (List Char)
    | [] => if word.isEmpty then [] else [word.reverse]
    | c :: rest =>
      if isBlank c then
        if word.isEmpty then go [] rest else word.reverse :: go [] rest
      else
        go (c :: word) rest

end JoinBench.Text
