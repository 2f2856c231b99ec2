import JoinBench.Csv.Fault
import JoinBench.Lifecycle.State
import Std.Data.ExtTreeSet

/-!
# Errors

Everything that can go wrong in a run, by cause, and the one place that puts it into words.
An error either spoils the experiment at hand only, or ends the run.
-/

namespace JoinBench

/-- A set of result rows. -/
abbrev RowSet := Std.ExtTreeSet String

/-- What is wrong with a configuration. -/
inductive ConfigProblem where
  | noSourceHost
  | emptyLabel
  | emptyImage
  | emptyShell
  | addressForm (address : String)
  | addressPort (address : String)
  | addressHost (address : String)
  | emptyHostPool
  | noParties
  | roleNotPlaced (role : RoleId)
  | noSourceIds
  | unlistableSource (source : RoleId)
  | unusableRole (role : RoleId)
  | unpairedSizes (setSizes joinSizes : Nat)
  | unknownGrid (name : String) (known : List String)
  | unknownHost (host : HostId)
  | joinTooLarge (joinSize commonKeys : Nat)
  | tooFewTables
  | tooFewColumns (columns sources : Nat)
  /-- A problem in the words of the caller. -/
  | stated (reason : String)
deriving DecidableEq, Repr

/-- The words for a configuration problem. -/
def ConfigProblem.message : ConfigProblem → String
  | .noSourceHost => "at least one source host is required"
  | .emptyLabel => "the container label must not be empty"
  | .emptyImage => "image repository and base tag must not be empty"
  | .emptyShell => "the unit shell must name a program, e.g. [\"sh\", \"-c\"]"
  | .addressForm address => "helper address '" ++ address ++ "' is not of the form host:port"
  | .addressPort address => "helper address '" ++ address ++ "' has an invalid port"
  | .addressHost address => "helper address '" ++ address ++ "' has an invalid host"
  | .emptyHostPool => "cannot place sources: the source host list is empty"
  | .noParties => "an experiment needs at least one source party"
  | .roleNotPlaced role => role.text ++ " is not part of this topology"
  | .noSourceIds => "the -sources flag needs at least one source id"
  | .unlistableSource source =>
    "source id '" ++ source.text ++ "' cannot be passed in a comma-separated list"
  | .unusableRole role => "role identity '" ++ role.text ++ "' cannot be passed as a flag"
  | .unpairedSizes setSizes joinSizes =>
    "grid pairs set sizes with join sizes, got " ++ setSizes.repr ++ " set sizes and "
      ++ joinSizes.repr ++ " join sizes"
  | .unknownGrid name known =>
    "unknown experiment grid '" ++ name ++ "', available grids: " ++ Text.quotedList known
  | .unknownHost host => "host '" ++ host.text ++ "' is not part of the execution fabric"
  | .joinTooLarge joinSize commonKeys =>
    "join size " ++ joinSize.repr ++ " needs more than " ++ commonKeys.repr
      ++ " common keys to choose from"
  | .tooFewTables => "the join size can only be controlled with at least two tables"
  | .tooFewColumns columns sources =>
    "CSV has only " ++ columns.repr ++ " attribute columns, but " ++ sources.repr
      ++ " sources were specified"
  | .stated reason => reason

/-- Why a lifecycle operation is not allowed. -/
inductive LifecycleProblem where
  | foreignUnit
  | imageInUse
  | notLaunchable (state : UnitState)
  /-- A problem in the words of the caller. -/
  | stated (reason : String)
deriving DecidableEq, Repr

/-- The words for a lifecycle problem. -/
def LifecycleProblem.message : LifecycleProblem → String
  | .foreignUnit => "unit does not belong to this topology"
  | .imageInUse => "cannot reset the image of a running unit"
  | .notLaunchable state => "cannot launch a unit while in state " ++ state.shown
  | .stated reason => reason

/-- An operation of a container runtime. -/
inductive Operation where
  | list
  | create
  | start
  | wait
  | logs
  | follow
  | remove
  | tag
  | removeImage
  | commit
  /-- An operation under a name of its own. -/
  | other (name : String)
deriving DecidableEq, Repr

/-- The name of an operation in messages. -/
def Operation.name : Operation → String
  | .list => "list containers"
  | .create => "create container"
  | .start => "start container"
  | .wait => "wait container"
  | .logs => "read logs"
  | .follow => "follow logs"
  | .remove => "remove container"
  | .tag => "tag image"
  | .removeImage => "remove image"
  | .commit => "commit container"
  | .other name => name

/-- An error. -/
inductive Error where
  /-- A file or a sink failed. -/
  | io (reason : String)
  /-- A text is not JSON, or not JSON of the wanted type. -/
  | json (reason : String)
  | csv (fault : Csv.Fault)
  /-- A container host does not answer. -/
  | connection (host : HostId) (reason : String)
  | config (problem : ConfigProblem)
  /-- A container host refused an operation. -/
  | runtime (host : HostId) (operation : Operation) (reason : String)
  | lifecycle (role : RoleId) (problem : LifecycleProblem)
  /-- A unit exited with a status other than zero. -/
  | unitRun (role : RoleId) (status : Int) (logs : String)
  | resultMismatch (expected observed : RowSet)
  /-- The statistics that a unit printed are not JSON. -/
  | stats (reason : String)
deriving DecidableEq

namespace Error

/-- How many rows one set has beyond another. -/
def surplus (rows others : RowSet) : Nat :=
  (rows.toList.filter fun row => !others.contains row).length

/-- The words for an error. -/
def message : Error → String
  | io reason => "File not found or could not be read: " ++ reason
  | json reason => "Failed to parse JSON: " ++ reason
  | csv fault => "Failed to read CSV data: " ++ fault.message
  | connection host reason =>
    "Could not connect to container host '" ++ host.text ++ "': " ++ reason
      ++ ". Have the certificates been created for remote hosts?"
  | config problem => "Invalid configuration: " ++ problem.message
  | runtime host operation reason =>
    "Runtime operation '" ++ operation.name ++ "' failed on host '" ++ host.text ++ "': "
      ++ reason
  | lifecycle role problem =>
    "Illegal lifecycle transition for unit '" ++ role.text ++ "': " ++ problem.message
  | unitRun role status logs =>
    "Unit '" ++ role.text ++ "' exited with status " ++ String.ofList (Json.renderInt status)
      ++ ", logs:\n" ++ logs
  | resultMismatch expected observed =>
    "Result does not match expected result (" ++ expected.size.repr ++ " expected rows, "
      ++ observed.size.repr ++ " observed rows, " ++ (surplus expected observed).repr
      ++ " missing, " ++ (surplus observed expected).repr ++ " unexpected)"
  | stats reason => "Malformed statistics line: " ++ reason

/-- Whether an error only spoils the experiment at hand; every other error ends the run. -/
def isPointScoped : Error → Bool
  | io _ => false
  | json _ => false
  | connection _ _ => false
  | _ => true

end Error

end JoinBench
