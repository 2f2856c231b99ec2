import JoinBench.Job

/-!
# The execution fabric

The container hosts of a run, each once, in ascending order.
-/

namespace JoinBench

/-- The container hosts of a run. -/
structure Fabric where
  hosts : List HostId
deriving DecidableEq, Inhabited, Repr

namespace Fabric

/-- The fabric of some hosts. -/
def ofHosts (hosts : List HostId) : Fabric :=
  ⟨(sortedDistinct (hosts.map HostId.text)).map HostId.mk⟩

/-- A host, if it belongs to the fabric. -/
def host (fabric : Fabric) (id : HostId) : Except Error HostId :=
  if fabric.hosts.contains id then .ok id else .error (.config (.unknownHost id))

/-- Removes a unit by force. -/
def removeUnit (host : HostId) (unit : UnitRef) : Job Unit := do
  Job.remove host unit.unitId true
  Job.log .debug
    ("Removed unit " ++ unit.name ++ " (" ++ unit.unitId ++ ") on " ++ host.text)

/-- Removes by force every unit of a host that carries the label, and counts them. -/
def cleanHost (label : String) (host : HostId) : Job Nat := do
  let units ← Job.list host label
  Program.forEach (removeUnit host) units
  return units.length

/-- Removes by force every unit that carries the label, on all hosts together, and counts
them. -/
def cleanAll (fabric : Fabric) (label : String) : Job Nat := do
  let counts ← Program.all (fabric.hosts.map (cleanHost label))
  let removed := counts.foldl (· + ·) 0
  if 0 < removed then
    Job.log .info
      ("Removed " ++ removed.repr ++ " stale unit(s) labelled '" ++ label ++ "'")
  return removed

end Fabric

end JoinBench
