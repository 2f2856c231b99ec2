import JoinBench.Error
import JoinBench.Text.Blank
import JoinBench.Text.Numeral

/-!
# Flags of a unit

The command-line flags that a unit may get beside its identity.  Whatever they hold is checked
when it is put in, so that the rendered text splits at blanks and commas into what was put in.
-/

namespace JoinBench

/-- The address under which the helper is reached. -/
structure HelperAddress where
  host : String
  port : Nat
deriving DecidableEq, Inhabited, Repr

namespace HelperAddress

/-- The characters in front of the last colon and those behind it. -/
def splitAtLastColon? (cs : List Char) : Option (List Char × List Char) :=
  let behind := cs.reverse.takeWhile (· ≠ ':')
  match cs.reverse.drop behind.length with
  | _ :: host => some (host.reverse, behind.reverse)
  | [] => none

/-- Reads `host:port`.  The host is all in front of the last colon; it may not be empty nor
contain a blank. -/
def parse (address : String) : Except Error HelperAddress :=
  match splitAtLastColon? address.toList with
  | none => .error (.config (.addressForm address))
  | some (host, port) =>
    match Text.readNat? Text.bound16 port with
    | none => .error (.config (.addressPort address))
    | some port =>
      if host.isEmpty || host.any Text.isBlank then .error (.config (.addressHost address))
      else .ok ⟨String.ofList host, port⟩

/-- The text of an address. -/
def display (address : HelperAddress) : String :=
  address.host ++ ":" ++ address.port.repr

end HelperAddress

/-- The flags of a unit. -/
structure UnitFlags where
  helperAddress : Option HelperAddress
  sources : Option (List RoleId)
  nRows : Option Nat
  /-- The number of CPUs to use; zero leaves it to the unit. -/
  nCpu : Option Nat
deriving DecidableEq, Inhabited, Repr

namespace UnitFlags

/-- No flags. -/
def none : UnitFlags :=
  ⟨.none, .none, .none, .none⟩

/-- The flags with the given helper address. -/
def withHelperAddress (flags : UnitFlags) (address : HelperAddress) : UnitFlags :=
  { flags with helperAddress := some address }

/-- Whether a name can stand in a comma-separated list. -/
def isListable (id : RoleId) : Bool :=
  !id.text.isEmpty && !id.text.toList.any fun c => c = ',' || c = ' '

/-- The flags with the given source names. -/
def withSources (flags : UnitFlags) (sources : List RoleId) : Except Error UnitFlags :=
  if sources.isEmpty then .error (.config .noSourceIds)
  else
    match sources.find? fun id => !isListable id with
    | some id => .error (.config (.unlistableSource id))
    | .none => .ok { flags with sources := some sources }

/-- The flags with the given number of rows. -/
def withRows (flags : UnitFlags) (n : Nat) : UnitFlags :=
  { flags with nRows := some n }

/-- The flags with the given number of CPUs. -/
def withCpu (flags : UnitFlags) (n : Nat) : UnitFlags :=
  { flags with nCpu := some n }

/-- A flag and its value. -/
def flag (name value : String) : String :=
  "-" ++ name ++ " " ++ value

/-- The flags that are set with their values, in their fixed order. -/
def assigned (flags : UnitFlags) : List (String × String) :=
  (flags.helperAddress.map fun a => ("helper_address", a.display)).toList
    ++ (flags.sources.map fun ids =>
        ("sources", String.intercalate "," (ids.map RoleId.text))).toList
    ++ (flags.nRows.map fun n => ("n_rows", n.repr)).toList
    ++ (flags.nCpu.map fun n => ("n_cpu", n.repr)).toList

/-- The flags of a role as command-line text; the identity comes first. -/
def render (flags : UnitFlags) (role : RoleId) : Except Error String :=
  if role.text.isEmpty || Text.hasBlank role.text then .error (.config (.unusableRole role))
  else
    .ok (String.intercalate " "
      ((("id", role.text) :: flags.assigned).map fun f => flag f.1 f.2))

end UnitFlags

end JoinBench
