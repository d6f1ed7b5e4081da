import OverlayStack.Text.Number
import OverlayStack.Topology.Basic

/-!
# Distance tables

A node that exchanges distance vectors keeps its own vector, which says for every node what it costs
to get there, and the vectors that it has learned from its neighbors.

## Main definitions

* `Topology.linkCosts` — the costs of the direct links of a node.
* `DistanceTable` — the vectors that a node knows.
* `DistanceTable.cost`, `DistanceTable.set` — the cost that one node has for another.
* `DistanceTable.text`, `linkCostsText` — the tables as text.
-/

namespace OverlayStack

/-- The costs of the links from a node to its neighbors. -/
def Topology.linkCosts (t : Topology) (me : NodeId) : NodeMap Cost :=
  (t.hosts.filter fun id _ => (t.link? me id).isSome).map fun id _ => t.cost me id

/-- The cost of the link to a node. -/
def linkCost (links : NodeMap Cost) (node : NodeId) : Cost :=
  (links.find? node).getD infiniteCost

/-- Link costs as text. -/
def linkCostsText (links : NodeMap Cost) : String :=
  "Neighbor costs:\n" ++ String.join (links.entries.map fun e =>
    s!"  {Text.column 5 e.1.toNat} : {e.2}\n")

/-- One line for each node with the costs that it has, under a line of destinations. -/
def costMatrixText (title : String) (dests : List NodeId) (rows : List (NodeId × List Cost)) :
    String :=
  let cells (ns : List UInt32) : String :=
    String.join (ns.map fun n => s!" {Text.column 5 n.toNat}")
  s!"{title}:\n  from\\to" ++ cells dests ++ "\n" ++
    String.join (rows.map fun r => s!"  {Text.column 7 r.1.toNat}" ++ cells r.2 ++ "\n")

/-- The distance vectors that a node knows. -/
structure DistanceTable where
  /-- The node. -/
  me : NodeId
  /-- The node's own vector. -/
  own : NodeMap Cost
  /-- The vectors of the neighbors. -/
  learned : NodeMap (NodeMap Cost)

namespace DistanceTable

/-- The table of a node before it has learned anything: it knows the costs of its links, and nothing
of what its neighbors know. -/
def start (t : Topology) (me : NodeId) : DistanceTable :=
  let links := t.linkCosts me
  { me
    own := t.hosts.map fun id _ => if id = me then 0 else linkCost links id
    learned := links.map fun _ _ => t.hosts.map fun _ _ => infiniteCost }

/-- The vector of a node. -/
def row? (d : DistanceTable) (source : NodeId) : Option (NodeMap Cost) :=
  if source = d.me then some d.own else d.learned.find? source

/-- Whether the vector of a node has a place in the table. -/
def hasRow (d : DistanceTable) (source : NodeId) : Bool :=
  (d.row? source).isSome

/-- Whether a node belongs to the overlay. -/
def hasNode (d : DistanceTable) (node : NodeId) : Bool :=
  d.own.contains node

/-- Whether the table has a place for the cost from one node to another. -/
def hasCost (d : DistanceTable) (source dest : NodeId) : Bool :=
  d.hasNode dest && d.hasRow source

/-- The table with the cost from one node to another set, if it has a place for it.  Costs above the
infinite one are brought down to it. -/
def set (d : DistanceTable) (source dest : NodeId) (cost : Cost) : DistanceTable :=
  let change (row : NodeMap Cost) := row.modify dest fun _ => min cost infiniteCost
  if source = d.me then { d with own := change d.own }
  else { d with learned := d.learned.modify source change }

/-- The cost from one node to another. -/
def cost (d : DistanceTable) (source dest : NodeId) : Cost :=
  if source = dest then 0
  else ((d.row? source).bind fun row => row.find? dest).getD infiniteCost

/-- The node's own vector. -/
def ownVector (d : DistanceTable) : List (NodeId × Cost) :=
  d.own.entries

/-- The text of a table. -/
def text (d : DistanceTable) : String :=
  costMatrixText "Distance vectors" d.own.keys
    (((d.me, d.own) :: d.learned.entries).map fun r => (r.1, r.2.entries.map (·.2)))

end DistanceTable

end OverlayStack
