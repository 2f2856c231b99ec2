import JoinBench.Identity
import JoinBench.Json.Printer
import Std.Data.ExtTreeMap

/-!
# Units and images

What a container host runs and keeps: images, known by repository and tag, and units, which
are launched from an image under a name.
-/

namespace JoinBench

/-- An image of a host. -/
structure ImageRef where
  repository : String
  tag : String
deriving DecidableEq, Inhabited, Repr

namespace ImageRef

/-- Images are ordered by repository, then by tag. -/
instance : Ord ImageRef :=
  ⟨compareLex (compareOn ImageRef.repository) (compareOn ImageRef.tag)⟩

instance : Std.TransOrd ImageRef :=
  inferInstanceAs
    (Std.TransCmp (compareLex (compareOn ImageRef.repository) (compareOn ImageRef.tag)))

instance : Std.LawfulEqOrd ImageRef where
  eq_of_compare {a b} h := by
    have h : compareLex (compareOn repository) (compareOn tag) a b = .eq := h
    rw [compareLex_eq_eq] at h
    obtain ⟨hr, ht⟩ := h
    obtain ⟨r, t⟩ := a
    obtain ⟨r', t'⟩ := b
    simp only [compareOn, Std.LawfulEqOrd.compare_eq_iff_eq] at hr ht
    rw [hr, ht]

/-- The usual text of an image. -/
def display (image : ImageRef) : String :=
  image.repository ++ ":" ++ image.tag

/-- An image as JSON. -/
def toJson (image : ImageRef) : Json :=
  .object [("repository", .text image.repository), ("tag", .text image.tag)]

end ImageRef

/-- A unit that was launched: the host it runs on, the name that the host gave it, and the role
it plays. -/
structure UnitHandle where
  host : HostId
  unitId : String
  role : RoleId
deriving DecidableEq, Inhabited, Repr

namespace UnitHandle

/-- A unit in messages, with the first twelve characters of its name. -/
def display (u : UnitHandle) : String :=
  u.role.text ++ "@" ++ u.host.text ++ " (" ++ String.ofList (u.unitId.toList.take 12) ++ ")"

/-- A unit with all its parts. -/
def shown (u : UnitHandle) : String :=
  "UnitHandle \x7b host: " ++ u.host.shown ++ ", unit_id: " ++ Text.quoted u.unitId
    ++ ", role: " ++ u.role.shown ++ " \x7d"

/-- A unit as JSON text, its parts in the order of their declaration. -/
def jsonText (u : UnitHandle) : String :=
  let member (name value : String) := Json.renderText name ++ ':' :: Json.renderText value
  String.ofList
    ('\x7b' :: member "host" u.host.text ++ ',' :: member "unit_id" u.unitId
      ++ ',' :: member "role" u.role.text ++ ['\x7d'])

end UnitHandle

/-- The network mode of every unit: it shares the network of its host, so that a port bound by
one unit is reachable by every other unit there. -/
def networkMode : String := "host"

/-- A request to launch a unit. -/
structure LaunchSpec where
  image : ImageRef
  name : String
  command : List String
  /-- The labels of the unit; each has an empty value. -/
  labels : List String
  /-- Whether the launch returns without waiting for the unit to exit. -/
  detach : Bool
deriving DecidableEq, Inhabited, Repr

/-- A unit in the listing of a host. -/
structure UnitRef where
  unitId : String
  name : String
deriving DecidableEq, Inhabited, Repr

/-- A choice of output streams. -/
inductive LogSelect where
  | stdout
  | stderr
  | both
deriving DecidableEq, Inhabited, Repr

/-- Whether the choice includes the standard output. -/
def LogSelect.hasStdout : LogSelect → Bool
  | .stderr => false
  | _ => true

/-- Whether the choice includes the standard error. -/
def LogSelect.hasStderr : LogSelect → Bool
  | .stdout => false
  | _ => true

end JoinBench
