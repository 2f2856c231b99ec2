/-!
# Lines

A line ends at a line feed; a carriage return right before that line feed belongs to the end
of the line.  What stands behind the last line feed is a line of its own unless it is empty,
and keeps its carriage return.
-/

namespace JoinBench.Text

/-- The lines of a text given as characters. -/
def charLines (cs : List Char) : List (List Char) :=
  go [] cs
where
  /-- Collects lines behind an unfinished line, whose characters stand in reverse. -/
  go (line : List Char) : List Char → List (List Char)
    | [] => if line.isEmpty then [] else [line.reverse]
    | c :: rest =>
      if c = '\n' then
        (match line with
        | '\r' :: body => body.reverse
        | body => body.reverse) :: go [] rest
      else
        go (c :: line) rest

/-- The lines of a text. -/
def lines (s : String) : List String :=
  (charLines s.toList).map String.ofList

end JoinBench.Text
