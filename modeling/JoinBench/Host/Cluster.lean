import JoinBench.Host.Memory

/-!
# Clusters

Several hosts that answer requests under their names.  A layer is whatever does so out of a
state; a cluster of hosts in memory is one, and guards may stand in front of any layer.
-/

namespace JoinBench.Host

/-- Answers the requests to each host out of a state; `none` never answers. -/
abbrev Layer (τ : Type) := HostId → (r : Request) → τ → Option r.Answer × τ

/-- Hosts in memory; of two hosts of one name the later one answers. -/
abbrev Cluster := List Memory

namespace Cluster

/-- The host that answers under a name. -/
def host? (id : HostId) : Cluster → Option Memory
  | [] => none
  | host :: rest => (host? id rest).or (if host.id = id then some host else none)

/-- The answer under a name, and the cluster behind it. -/
def answer? (id : HostId) (r : Request) : Cluster → Option (r.Answer × Cluster)
  | [] => none
  | host :: rest =>
    match answer? id r rest with
    | some (x, rest) => some (x, host :: rest)
    | none =>
      if host.id = id then
        let (x, host) := host.answer r
        some (x, host :: rest)
      else none

/-- A cluster as a layer.  A host that is not there never answers. -/
def layer : Layer Cluster := fun id r cluster =>
  match answer? id r cluster with
  | some (x, cluster) => (some x, cluster)
  | none => (none, cluster)

/-- Changes the first host of a name. -/
def modifyFirst (id : HostId) (f : Memory → Memory) : Cluster → Cluster
  | [] => []
  | host :: rest => if host.id = id then f host :: rest else host :: modifyFirst id f rest

end Cluster

/-- What stands in front of a layer: for some requests it has an answer of its own, or lets them
hang. -/
structure Guard where
  /-- What happens to a request to a host that is the given one of its kind, counted from one;
  `none` lets it through. -/
  keeps : HostId → (r : Request) → (number : Nat) → Option (Option r.Answer)
  /-- How many requests of each kind there were to each host. -/
  counts : List ((HostId × Kind) × Nat)

namespace Guard

/-- The guard that lets everything through. -/
def none : Guard :=
  ⟨fun _ _ _ => .none, []⟩

/-- How many requests of a kind there were to a host. -/
def count (g : Guard) (id : HostId) (kind : Kind) : Nat :=
  ((g.counts.find? (·.1 = (id, kind))).map (·.2)).getD 0

/-- The guard behind a further request. -/
def counted (g : Guard) (id : HostId) (kind : Kind) : Guard :=
  { g with
    counts := ((id, kind), g.count id kind + 1) :: g.counts.filter (·.1 ≠ (id, kind)) }

/-- A layer behind a guard. -/
def layer (inner : Layer τ) : Layer (Guard × τ) := fun id r (g, s) =>
  let g := g.counted id r.kind
  match g.keeps id r (g.count id r.kind) with
  | some kept => (kept, (g, s))
  | .none =>
    let (x, s) := inner id r s
    (x, (g, s))

end Guard

end JoinBench.Host
