import JoinBench.Error

/-!
# Requests to a container host

What the benchmark asks of the container runtime of a single host.
-/

namespace JoinBench.Host

/-- A request to a container host. -/
inductive Request where
  /-- The units that carry a label. -/
  | list (label : String)
  | launch (spec : LaunchSpec)
  /-- The exit status of a unit, once it has exited. -/
  | wait (unit : UnitHandle)
  /-- The captured output of a unit. -/
  | logs (unit : UnitHandle) (select : LogSelect)
  /-- The whole output of a unit, piece by piece until it exits. -/
  | follow (unit : UnitHandle)
  | remove (unitId : String) (force : Bool)
  | tag (source target : ImageRef)
  /-- Removes an image; that it is not there is no error. -/
  | removeImage (image : ImageRef)
  /-- Makes an image of a unit. -/
  | commit (unit : UnitHandle) (target : ImageRef)
deriving DecidableEq, Inhabited, Repr

namespace Request

/-- What a request that succeeds yields. -/
@[reducible] def Value : Request → Type
  | list _ => List UnitRef
  | launch _ => UnitHandle
  | wait _ => Int
  | logs _ _ => String
  | follow _ => List (Except Error String)
  | remove _ _ => Unit
  | tag _ _ => Unit
  | removeImage _ => Unit
  | commit _ _ => Unit

/-- What a request is answered with.  Following a unit does not fail as a whole: its pieces
do. -/
@[reducible] def Answer : Request → Type
  | list _ => Except Error (List UnitRef)
  | launch _ => Except Error UnitHandle
  | wait _ => Except Error Int
  | logs _ _ => Except Error String
  | follow _ => List (Except Error String)
  | remove _ _ => Except Error Unit
  | tag _ _ => Except Error Unit
  | removeImage _ => Except Error Unit
  | commit _ _ => Except Error Unit

/-- The answer that a result makes; where following fails, the failure is the only piece. -/
def settle : (r : Request) → Except Error r.Value → r.Answer
  | follow _, .ok pieces => pieces
  | follow _, .error e => [.error e]
  | list _, result => result
  | launch _, result => result
  | wait _, result => result
  | logs _ _, result => result
  | remove _ _, result => result
  | tag _ _, result => result
  | removeImage _, result => result
  | commit _ _, result => result

end Request

/-- The kinds of requests; removing by force is a kind of its own. -/
inductive Kind where
  | list
  | launch
  | wait
  | logs
  | follow
  | remove
  | forceRemove
  | tag
  | removeImage
  | commit
deriving DecidableEq, Inhabited, Repr

/-- The kind of a request. -/
def Request.kind : Request → Kind
  | list _ => .list
  | launch _ => .launch
  | wait _ => .wait
  | logs _ _ => .logs
  | follow _ => .follow
  | remove _ force => if force then .forceRemove else .remove
  | tag _ _ => .tag
  | removeImage _ => .removeImage
  | commit _ _ => .commit

end JoinBench.Host
