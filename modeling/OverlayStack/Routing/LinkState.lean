import OverlayStack.Routing.LinkGraph
import OverlayStack.Routing.Table
import OverlayStack.Routing.Update

/-!
# Routing by link states

Every node knows the whole topology, and the only news are failures.  A notice of a failure is
passed on by each node that gets it, and carries in its source field how far it may still travel.

## Main definitions

* `hopFloor`, `hopCeil`, `nextFloodHop` — the hop budget of a notice.
* `LinkState` — the state of a node.
* `LinkState.handle` — what it does about a notice.
-/

namespace OverlayStack

/-- The hop budget of a notice that is not passed on any more. -/
def hopFloor : NodeId := 1020

/-- The hop budget of a notice that was passed on once.  Nodes have smaller numbers than any
budget. -/
def hopCeil : NodeId := 1024

/-- The source field of a notice when it is passed on, or nothing if it ends here.  The notice of a
node that met the failure names the failed node; every node after that spends one hop. -/
def nextFloodHop (source failed : NodeId) : Option NodeId :=
  if source = failed then some hopCeil
  else if hopFloor < source && source ≤ hopCeil then some (source - 1)
  else none

/-- What a node knows that routes by link states. -/
structure LinkState where
  /-- The node. -/
  me : NodeId
  /-- The topology with its failures. -/
  graph : LinkGraph
  routes : RoutingTable

namespace LinkState

/-- Routing tables with the first step of the cheapest way to each other node. -/
def refresh (me : NodeId) (g : LinkGraph) (routes : RoutingTable) : RoutingTable :=
  (g.nodeIds.filter (· != me)).foldl (fun r dest =>
    match g.nextHop me dest with
    | some next => r.set dest next
    | none => r.remove dest) routes

/-- A node that has heard of no failure. -/
def start (t : Topology) (me : NodeId) (slots : Nat) : LinkState :=
  let graph := LinkGraph.start t
  { me, graph, routes := refresh me graph (RoutingTable.withSlots slots) }

/-- The node after it has heard of a failure. -/
def fail (s : LinkState) (node : NodeId) : LinkState :=
  if s.graph.canRemove node then
    let graph := s.graph.remove node
    { s with graph, routes := refresh s.me graph s.routes }
  else s

/-- The node after a route update, and the packets that it sends to all neighbors. -/
def handle (s : LinkState) (source : NodeId) (u : RouteUpdate) :
    Except RoutingError (LinkState × List Packet) :=
  match u.failedNode? with
  | none => .error (.noFailure source u.entries)
  | some failed =>
    if failed = s.me then .ok (s, [])
    else
      .ok (s.fail failed, (nextFloodHop source failed).toList.map fun hop => Packet.ofUpdate hop u)

/-- The text of everything that the node knows. -/
def text (s : LinkState) : String :=
  s.graph.text ++ s.routes.text

end LinkState

end OverlayStack
