import JoinBench.Json.Value
import JoinBench.Program.Run

/-!
# Requests over HTTP

One request, one reply.  A program over this interface is a conversation with a server; a
script is a server that knows its replies beforehand.
-/

namespace JoinBench.Http

/-- What a request wants to be done. -/
inductive Method where
  | get
  | post
  | delete
deriving DecidableEq, Inhabited, Repr

/-- The name of a method. -/
def Method.name : Method → String
  | get => "GET"
  | post => "POST"
  | delete => "DELETE"

/-- A request. -/
structure Request where
  method : Method
  /-- The path, percent-encoded. -/
  path : String
  /-- The parameters behind the path, in ascending order of their names. -/
  query : List (String × String)
  body : Option Json
deriving Inhabited

/-- A request in short. -/
def Request.display (r : Request) : String :=
  r.method.name ++ " " ++ r.path

/-- What becomes of a request. -/
inductive Reply where
  | response (status : Nat) (body : List UInt8)
  /-- The connection ended without a response. -/
  | lost
deriving DecidableEq, Inhabited, Repr

/-- Requests and their replies as an interface. -/
@[reducible] def interface : Interface :=
  ⟨Request, fun _ => Reply⟩

/-- Sends a request. -/
def send {ε : Type} (request : Request) : Program interface ε Reply :=
  .call request .done

/-- A server that replies from a list. -/
structure Script where
  /-- The replies that are left. -/
  replies : List Reply
  /-- The reply when none is left. -/
  exhausted : Reply
  /-- The requests so far, newest first. -/
  requests : List Request

/-- A script that replies to programs. -/
def Script.handler : Handler interface Script := fun request s =>
  let heard := { s with requests := request :: s.requests }
  match s.replies with
  | reply :: rest => (some reply, { heard with replies := rest })
  | [] => (some s.exhausted, heard)

end JoinBench.Http
