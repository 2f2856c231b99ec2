import JoinBench.Grid

/-!
# Command templates

A template is a command with placeholders for the source names, the sizes and the seed of an
experiment.
-/

namespace JoinBench.Command

/-- The characters with every occurrence of a pattern replaced, from left to right; `skip`
characters still belong to an occurrence that was replaced. -/
def replaceFrom (pattern by_ : List Char) : (skip : Nat) → List Char → List Char
  | _, [] => []
  | skip + 1, _ :: rest => replaceFrom pattern by_ skip rest
  | 0, c :: rest =>
    if pattern.isPrefixOf (c :: rest) then
      by_ ++ replaceFrom pattern by_ (pattern.length - 1) rest
    else c :: replaceFrom pattern by_ 0 rest

/-- The text with every occurrence of a non-empty pattern replaced. -/
def replace (pattern by_ : String) (text : List Char) : List Char :=
  replaceFrom pattern.toList by_.toList 0 text

/-- The command of a template for an experiment with the given sources. -/
def render (template : String) (sources : List RoleId) (point : Point) : String :=
  let text := template.toList
  let text := replace "\x7bsources\x7d" (String.intercalate "," (sources.map RoleId.text)) text
  let text := replace "\x7bset_size\x7d" point.setSize.repr text
  let text := replace "\x7bjoin_size\x7d" point.joinSize.repr text
  let text := replace "\x7bseed\x7d" point.seed.repr text
  String.ofList text

end JoinBench.Command
