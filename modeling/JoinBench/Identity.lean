import JoinBench.Text.Quoted

/-!
# Identities

Hosts and roles are known by name.  The two kinds of names are types of their own, so that
neither can stand for the other.
-/

namespace JoinBench

/-- The address of a container runtime: `localhost`, or a host name that can be resolved. -/
structure HostId where
  text : String
deriving DecidableEq, Inhabited, Repr

/-- The name of a role, which is also the name of its unit and the tag of its image. -/
structure RoleId where
  text : String
deriving DecidableEq, Inhabited, Repr

/-- A host name as messages show it. -/
def HostId.shown (host : HostId) : String :=
  "HostId: " ++ Text.quoted host.text

/-- A role name as messages show it. -/
def RoleId.shown (role : RoleId) : String :=
  "RoleId: " ++ Text.quoted role.text

/-- The host that holds the units of a single-machine setup. -/
def HostId.localhost : HostId := ⟨"localhost"⟩

/-- The ascending list of names with a further one, unless it is there already. -/
def insertName (name : String) : List String → List String
  | [] => [name]
  | other :: rest =>
    if name < other then name :: other :: rest
    else if name = other then other :: rest
    else other :: insertName name rest

/-- Names in ascending order, each once. -/
def sortedDistinct (names : List String) : List String :=
  names.foldr insertName []

end JoinBench
