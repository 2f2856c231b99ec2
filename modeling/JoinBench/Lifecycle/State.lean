import JoinBench.Host.Unit

/-!
# States of a role

Within one experiment a role goes from no image to the base image, and from there any number
of times through running, exited and committed.
-/

namespace JoinBench

/-- What the harness knows about the unit of a role. -/
inductive UnitState where
  | noImage
  | baseImage
  /-- A launch request is on its way. -/
  | launching
  | running (unit : UnitHandle)
  | exited (unit : UnitHandle) (status : Int)
  | committed
deriving DecidableEq, Inhabited, Repr

namespace UnitState

/-- Whether a unit may be launched: the image of the role is in place and not in use. -/
def canLaunch : UnitState → Bool
  | baseImage => true
  | committed => true
  | _ => false

/-- Whether a unit may be using the image of the role. -/
def isBusy : UnitState → Bool
  | launching => true
  | running _ => true
  | _ => false

/-- A state as messages show it. -/
def shown : UnitState → String
  | noImage => "NoImage"
  | baseImage => "BaseImage"
  | launching => "Launching"
  | running u => "Running(" ++ u.shown ++ ")"
  | exited u status =>
    "Exited \x7b unit: " ++ u.shown ++ ", status: " ++ String.ofList (Json.renderInt status)
      ++ " \x7d"
  | committed => "Committed"

end UnitState

end JoinBench
