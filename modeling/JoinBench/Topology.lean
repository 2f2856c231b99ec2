import JoinBench.Error

/-!
# Roles and where they run

The participants of the protocol are the sources, one helper and one receiver.  A topology
places them on hosts: the sources in turn over a pool of hosts, so that a source keeps its host
when further sources are added.
-/

namespace JoinBench

/-- A participant of the protocol, wherever it runs. -/
inductive Role where
  | source (index : Nat)
  | helper
  | receiver
deriving DecidableEq, Inhabited, Repr

namespace Role

/-- The name of a role. -/
def id : Role → RoleId
  | source index => ⟨"source_" ++ index.repr⟩
  | helper => ⟨"helper"⟩
  | receiver => ⟨"receiver"⟩

/-- Whether a role comes before another or is the same: sources by index, then the helper, then
the receiver. -/
def le : Role → Role → Bool
  | source i, source j => i ≤ j
  | source _, _ => true
  | helper, source _ => false
  | helper, _ => true
  | receiver, receiver => true
  | receiver, _ => false

end Role

/-- The hosts of the roles of one experiment. -/
structure Topology where
  /-- The host of each source, in the order of the sources. -/
  sourceHosts : List HostId
  helperHost : HostId
  receiverHost : HostId
deriving DecidableEq, Inhabited, Repr

namespace Topology

/-- Places source `i` on host `i mod n` of a pool of `n` hosts. -/
def placeSources (parties : Nat) (pool : List HostId) (h : pool ≠ []) : List HostId :=
  (List.range parties).map fun i =>
    pool.get ⟨i % pool.length, Nat.mod_lt i (List.length_pos_iff.mpr h)⟩

/-- The topology of an experiment with the given number of sources. -/
def resolve (parties : Nat) (pool : List HostId) (helperHost receiverHost : HostId) :
  Except Error Topology :=
  if h : pool = [] then .error (.config .emptyHostPool)
  else if parties = 0 then .error (.config .noParties)
  else .ok ⟨placeSources parties pool h, helperHost, receiverHost⟩

/-- The sources, in order. -/
def sources (t : Topology) : List Role :=
  (List.range t.sourceHosts.length).map Role.source

/-- The names of the sources, in order. -/
def sourceIds (t : Topology) : List RoleId :=
  t.sources.map Role.id

/-- All roles: the sources, the helper and the receiver. -/
def roles (t : Topology) : List Role :=
  t.sources ++ [.helper, .receiver]

/-- The host of a role. -/
def hostOf (t : Topology) : Role → Except Error HostId
  | .source index =>
    match t.sourceHosts[index]? with
    | some host => .ok host
    | none => .error (.config (.roleNotPlaced (Role.source index).id))
  | .helper => .ok t.helperHost
  | .receiver => .ok t.receiverHost

/-- The role of a name. -/
def role? (t : Topology) (id : RoleId) : Option Role :=
  t.roles.find? fun role => role.id = id

end Topology

end JoinBench
