import JoinBench.Host.Memory
import JoinBench.Text.Search

/-!
# Rules for units

What the units of a host in memory do, told by rules: the first rule that applies to a launch
request decides, and without one a unit succeeds silently.
-/

namespace JoinBench.Host

/-- A rule for units; a condition that is missing holds. -/
structure Rule where
  /-- The name of the unit. -/
  name : Option String
  /-- A part of the command. -/
  contains : Option String
  /-- Which launch request under its name it is, counted from one. -/
  on : Option Nat
  result : UnitResult
deriving DecidableEq, Inhabited, Repr

namespace Rule

/-- Whether a rule applies to a launch request. -/
def applies (earlier : List LaunchSpec) (spec : LaunchSpec) (rule : Rule) : Bool :=
  let number := earlier.countP (·.name = spec.name) + 1
  rule.name.all (· = spec.name)
    && rule.contains.all (Text.occursIn · (String.intercalate " " spec.command))
    && rule.on.all (· = number)

/-- What units do under some rules. -/
def behaviour (rules : List Rule) : Behaviour := fun earlier spec =>
  ((rules.find? (applies earlier spec)).map (·.result)).getD {}

end Rule

end JoinBench.Host
