import JoinBench.Environment.Settings
import JoinBench.Log
import JoinBench.Storage
import JoinBench.UnitFlags

/-!
# Environments

Settings that were checked, so that every experiment can run on them.
-/

namespace JoinBench

/-- A checked environment. -/
structure Environment where
  sourceHosts : List HostId
  helperHost : HostId
  receiverHost : HostId
  helperAddress : HelperAddress
  tls : Option TlsFiles
  nCpuPerSource : Nat
  image : ImageSettings
  containerLabel : String
  unitShell : List String
  commands : Commands
  cleanupDelayMs : Nat
  helperStartupDelayMs : Nat
  /-- Further grids, in ascending order of their names. -/
  grids : List (String × Grid)
deriving DecidableEq, Inhabited, Repr

/-- The image that every unit goes back to. -/
def ImageSettings.base (image : ImageSettings) : ImageRef :=
  ⟨image.repository, image.baseTag⟩

namespace Environment

/-- The hosts that settings name, as often as they name them. -/
def namedHosts (s : Settings) : List String :=
  s.sourceHosts ++ [s.helperHost, s.receiverHost]

/-- Whether a shell names a program. -/
def isShell : List String → Bool
  | [] => false
  | program :: _ => !Text.allBlank program

/-- Checks settings.  Without certificate files the usual ones are taken as soon as a host is
not the local one. -/
def ofSettings (s : Settings) : Except Error Environment := do
  if s.sourceHosts.isEmpty then throw (.config .noSourceHost)
  if Text.allBlank s.containerLabel then throw (.config .emptyLabel)
  if Text.allBlank s.image.repository || Text.allBlank s.image.baseTag then
    throw (.config .emptyImage)
  if !isShell s.unitShell then throw (.config .emptyShell)
  let helperAddress ← match s.helperAddress with
    | some address => HelperAddress.parse address
    | none => HelperAddress.parse (s.helperHost ++ ":" ++ s.helperPort.repr)
  let needsTls := (namedHosts s).any (· ≠ HostId.localhost.text)
  return {
    sourceHosts := s.sourceHosts.map HostId.mk
    helperHost := ⟨s.helperHost⟩
    receiverHost := ⟨s.receiverHost⟩
    helperAddress := helperAddress
    tls := s.tls.or (if needsTls then some {} else none)
    nCpuPerSource := s.nCpuPerSource
    image := s.image
    containerLabel := s.containerLabel
    unitShell := s.unitShell
    commands := s.commands
    cleanupDelayMs := s.cleanupDelayMs
    helperStartupDelayMs := s.helperStartupDelayMs
    grids := s.grids }

/-- The settings in the content of a file. -/
def settingsOfFile (content : Except FileProblem ByteArray) : Except Error Settings :=
  match content with
  | .error problem => .error (.io problem.message)
  | .ok bytes =>
    match String.fromUTF8? bytes with
    | none => .error (.io FileProblem.notText.message)
    | some text => Settings.parse text

/-- Loads the environment of a file, given by its path and content, or the usual one without a
file.  What is logged stands beside the result. -/
def load (file : Option (String × Except FileProblem ByteArray)) :
  List LogLine × Except Error Environment :=
  match file with
  | none => ([], ofSettings {})
  | some (path, content) =>
    match settingsOfFile content with
    | .error e => ([], .error e)
    | .ok settings =>
      ([.of .info ("Environment loaded from '" ++ path ++ "'.")], ofSettings settings)

/-- All hosts that a role may run on, in ascending order. -/
def allHosts (env : Environment) : List HostId :=
  (sortedDistinct ((env.sourceHosts ++ [env.helperHost, env.receiverHost]).map HostId.text)).map
    HostId.mk

/-- The grid of a name: one of the environment goes before one that is always there. -/
def grid? (env : Environment) (name : String) : Option Grid :=
  ((env.grids.find? (·.1 = name)).map (·.2)).or (Grid.builtin? name)

/-- The names of all grids: those that are always there, then the others. -/
def gridNames (env : Environment) : List String :=
  Grid.builtins.map (·.1)
    ++ (env.grids.map (·.1)).filter fun name => (Grid.builtin? name).isNone

/-- The points of a grid that are still to run from number `skipTo` on. -/
def plan (env : Environment) (name : String) (skipTo : Nat) : Except Error (List Point) :=
  match env.grid? name with
  | none => .error (.config (.unknownGrid name env.gridNames))
  | some grid => grid.points.map fun points => resumeFrom points skipTo

end Environment

end JoinBench
