import OverlayStack.Routing.DistanceTable

/-!
# Shortest paths in a topology with failures

The cheapest ways between all nodes of a topology from which some nodes have been removed.  They are
found by allowing one node after another as a stop on the way.  Ways that cost as much as the
infinite cost, or more, do not count.

## Main definitions

* `Path` — the cost of the cheapest way from one node to another, and its first step.
* `Topology.directPath` — the way over a single link.
* `improveThrough` — the paths after one more node was allowed as a stop.
* `Topology.shortestPaths` — the paths after every node was allowed.
* `LinkGraph` — a topology with the nodes that were removed and the paths between the others.
-/

namespace OverlayStack

/-- A way from one node to another. -/
structure Path where
  /-- What it costs. -/
  cost : Cost
  /-- The first node after the start, if there is a way and it has a step. -/
  next : Option NodeId
  deriving DecidableEq, Repr

/-- No way. -/
def Path.none : Path := ⟨infiniteCost, Option.none⟩

/-- Whether there is a way. -/
def Path.exists (p : Path) : Bool :=
  p.cost < infiniteCost

/-- The way over a stop. -/
def Path.through (first second : Path) : Path :=
  ⟨first.cost + second.cost, first.next⟩

/-- The cheaper of a way and the way over a stop.  If they cost the same, the first is kept. -/
def Path.improve (p first second : Path) : Path :=
  if first.exists && second.exists && first.cost + second.cost < p.cost then first.through second
  else p

/-- The paths between all nodes: from each node to each. -/
abbrev PathTable := NodeMap (NodeMap Path)

/-- The way between two nodes over a single link, or over none. -/
def Topology.directPath (t : Topology) (removed : List NodeId) (a b : NodeId) : Path :=
  if removed.contains a || removed.contains b then Path.none
  else if a = b then ⟨0, none⟩
  else
    let cost := t.cost a b
    if cost < infiniteCost then ⟨cost, some b⟩ else Path.none

/-- The ways between all nodes over a single link, or over none. -/
def Topology.directPaths (t : Topology) (removed : List NodeId) : PathTable :=
  t.hosts.map fun a _ => t.hosts.map fun b _ => t.directPath removed a b

/-- The ways from one node, improved by ways over a stop, from where `onward` leads. -/
def improveRow (stop : NodeId) (onward row : NodeMap Path) : NodeMap Path :=
  match row.find? stop with
  | none => row
  | some first =>
    if first.exists then
      row.zip (fun _ p second => (second.map (p.improve first)).getD p) onward
    else row

/-- The ways between all nodes, improved by ways over a stop. -/
def improveThrough (paths : PathTable) (stop : NodeId) : PathTable :=
  match paths.find? stop with
  | none => paths
  | some onward => paths.map fun _ row => improveRow stop onward row

/-- The cheapest ways between all nodes of a topology from which some nodes are removed. -/
def Topology.shortestPaths (t : Topology) (removed : List NodeId) : PathTable :=
  t.nodeIds.foldl improveThrough (t.directPaths removed)

/-- A topology, the nodes that have been removed from it, and the cheapest ways between the
others. -/
structure LinkGraph where
  topology : Topology
  /-- The nodes that have been removed. -/
  removed : List NodeId
  /-- The cheapest ways. -/
  paths : PathTable
  /-- The ways are always up to date. -/
  paths_eq : paths = topology.shortestPaths removed

namespace LinkGraph

/-- The graph of a topology without failures. -/
def start (t : Topology) : LinkGraph :=
  ⟨t, [], t.shortestPaths [], rfl⟩

/-- The nodes, removed or not. -/
def nodeIds (g : LinkGraph) : List NodeId :=
  g.topology.nodeIds

/-- Whether a node has been removed. -/
def isRemoved (g : LinkGraph) (node : NodeId) : Bool :=
  g.removed.contains node

/-- Whether removing a node makes a difference: it belongs to the topology and is still there. -/
def canRemove (g : LinkGraph) (node : NodeId) : Bool :=
  g.nodeIds.contains node && !g.isRemoved node

/-- The graph without a node. -/
def remove (g : LinkGraph) (node : NodeId) : LinkGraph :=
  if g.canRemove node then
    ⟨g.topology, node :: g.removed, g.topology.shortestPaths (node :: g.removed), rfl⟩
  else g

/-- The cheapest way from one node to another. -/
def path (g : LinkGraph) (a b : NodeId) : Path :=
  ((g.paths.find? a).bind fun row => row.find? b).getD Path.none

/-- The cost of the cheapest way. -/
def distance (g : LinkGraph) (a b : NodeId) : Cost :=
  (g.path a b).cost

/-- The first node on the cheapest way. -/
def nextHop (g : LinkGraph) (a b : NodeId) : Option NodeId :=
  (g.path a b).next

/-- The text of the costs. -/
def text (g : LinkGraph) : String :=
  costMatrixText "Shortest path costs" g.nodeIds
    (g.paths.entries.map fun r => (r.1, r.2.entries.map (·.2.cost)))

end LinkGraph

end OverlayStack
