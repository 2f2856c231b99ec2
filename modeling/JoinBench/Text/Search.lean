/-!
# Searching in texts
-/

namespace JoinBench.Text

/-- What stands behind the first occurrence of a pattern that is not empty. -/
def behind? (pattern : List Char) : List Char → Option (List Char)
  | [] => none
  | c :: rest =>
    if pattern.isPrefixOf (c :: rest) then some ((c :: rest).drop pattern.length)
    else behind? pattern rest

/-- Whether a text contains a pattern. -/
def occursIn (pattern text : String) : Bool :=
  pattern.isEmpty || (behind? pattern.toList text.toList).isSome

end JoinBench.Text
