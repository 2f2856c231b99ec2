import JoinBench.Docker.Daemon
import JoinBench.Environment.Basic
import JoinBench.Fabric

/-!
# Connecting to docker daemons

Before a run every host is asked once whether its daemon is there.  The first that is not ends
the run.
-/

namespace JoinBench.Docker

/-- Where the daemon of a host listens: the local one at a socket, all others behind TLS. -/
def url (host : HostId) : String :=
  if host = .localhost then "unix:///var/run/docker.sock"
  else "tcp://" ++ host.text ++ ":2376"

/-- Certificate files as they are found. -/
structure Certificates where
  files : TlsFiles
  /-- Why no client can be made with them, if none can. -/
  trouble : Option String
deriving DecidableEq, Inhabited, Repr

/-- Looks certificate files up.  A client needs the certificate of the authority. -/
def Certificates.find (folder : Folder) (files : TlsFiles) : Certificates where
  files := files
  trouble :=
    match folder.read files.caCert with
    | .ok _ => none
    | .error _ => some ("Cannot open/read certificate with path: " ++ files.caCert)

/-- How the hosts can be reached from here. -/
structure Reach where
  /-- The path of the local socket if there is none. -/
  missingSocket : Option String
  certificates : Option Certificates
deriving DecidableEq, Inhabited, Repr

/-- Why a host cannot even be asked. -/
def Reach.obstacle? (reach : Reach) (host : HostId) : Option String :=
  if host = .localhost then reach.missingSocket.map fun path => "Socket not found: " ++ path
  else
    match reach.certificates with
    | none => some "remote hosts require a TLS configuration"
    | some certificates => certificates.trouble

/-- Asks whether the daemon of a host is there. -/
def connect (reach : Reach) (host : HostId) : Program Http.interface Error Unit := do
  match reach.obstacle? host with
  | some reason => throw (.connection host reason)
  | none =>
    match bodyOf (← Http.send pingRequest) with
    | .ok _ => return ()
    | .error trouble => throw (.connection host trouble.message)

/-- What came of connecting to hosts. -/
structure Connected where
  /-- The hosts that answered, in the order in which they were asked. -/
  hosts : List HostId
  /-- What ended the connecting early. -/
  failure : Option Error
deriving DecidableEq

/-- Connects to hosts in order, each once; `done` are connected already. -/
def connectAll (reach : Reach) : (done hosts : List HostId) →
  Program Http.interface Error Connected
  | done, [] => return ⟨done, none⟩
  | done, host :: rest => do
    if done.contains host then connectAll reach done rest
    else
      match ← (connect reach host).attempt with
      | .ok () => connectAll reach (done ++ [host]) rest
      | .error e => return ⟨done, some e⟩

/-- The fabric of the hosts, if all of them answered. -/
def Connected.fabric (c : Connected) : Except Error Fabric :=
  match c.failure with
  | none => .ok (.ofHosts c.hosts)
  | some e => .error e

/-- What the log says about connected hosts. -/
def Connected.lines (c : Connected) : List LogLine :=
  c.hosts.map fun host =>
    .of .info ("Connected to container runtime of host " ++ host.text ++ " at " ++ url host)

end JoinBench.Docker
