import OverlayStack.Routing.DistanceTable
import OverlayStack.Routing.Table
import OverlayStack.Routing.Update

/-!
# Routing by distance vectors

Every node tells its neighbors from time to time what it costs it to get anywhere.  A node that
hears of a cheaper way through a neighbor takes that way.  The failure of a neighbor makes a node
forget every route through it.

## Main definitions

* `DistanceVector` — the state of a node.
* `DistanceVector.advertisement` — what it tells its neighbors.
* `DistanceVector.handle` — what it learns from a neighbor.
-/

namespace OverlayStack

/-- What a node knows that routes by distance vectors. -/
structure DistanceVector where
  /-- The costs of its links. -/
  links : NodeMap Cost
  /-- The vectors that it knows. -/
  table : DistanceTable
  routes : RoutingTable

namespace DistanceVector

/-- A node that has learned nothing yet. -/
def start (t : Topology) (me : NodeId) (slots : Nat) : DistanceVector :=
  let links := t.linkCosts me
  { links
    table := DistanceTable.start t me
    routes := RoutingTable.ofNeighbors slots links.keys }

/-- The node itself. -/
def me (s : DistanceVector) : NodeId :=
  s.table.me

/-- The node with its cost to another node set. -/
def setCost (s : DistanceVector) (dest : NodeId) (cost : Cost) : DistanceVector :=
  { s with table := s.table.set s.me dest cost }

/-- The node without its route to another node, which counts as out of reach. -/
def forget (s : DistanceVector) (dest : NodeId) : DistanceVector :=
  { s.setCost dest infiniteCost with routes := s.routes.remove dest }

/-- The node after it has lost a neighbor, and with it every route through the neighbor. -/
def lose (s : DistanceVector) (neighbor : NodeId) : DistanceVector :=
  (s.routes.via neighbor).foldl forget (s.setCost neighbor infiniteCost)

/-- The node after it has considered a way through a neighbor: the cost of the link to the neighbor
and the cost that the neighbor has for a destination. -/
def consider (source : NodeId) (link : Cost) (s : DistanceVector) (entry : NodeId × Cost) :
    DistanceVector :=
  let (dest, cost) := entry
  if dest = s.me || !s.table.hasNode dest then s
  else if dest = source && infiniteCost ≤ cost then s.lose source
  else
    let through := addCost cost link
    if through < s.table.cost s.me dest then
      { s.setCost dest through with routes := s.routes.set dest source }
    else s

/-- The node after it has written down the vector of a neighbor. -/
def learn (s : DistanceVector) (source : NodeId) (entries : List (NodeId × Cost)) :
    DistanceVector :=
  { s with table := entries.foldl (fun d e => d.set source e.1 e.2) s.table }

/-- The node after a route update. -/
def handle (s : DistanceVector) (source : NodeId) (u : RouteUpdate) :
    Except RoutingError DistanceVector :=
  if s.table.hasRow source then
    .ok (u.entries.foldl (consider source (linkCost s.links source)) (s.learn source u.entries))
  else .error (.notNeighbor source)

/-- What the node tells its neighbors. -/
def advertisement (s : DistanceVector) : RouteUpdate :=
  ⟨s.table.ownVector⟩

/-- The text of everything that the node knows. -/
def text (s : DistanceVector) : String :=
  linkCostsText s.links ++ s.table.text ++ s.routes.text

end DistanceVector

end OverlayStack
