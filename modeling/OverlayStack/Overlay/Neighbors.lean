import OverlayStack.Topology.Basic
import OverlayStack.Wire.Frame

/-!
# Neighbor tables

A node of the overlay has at most one link to each of its neighbors.  A neighbor whose link is lost
is removed for good.

## Main definitions

* `NeighborLink`, `Neighbor`, `NeighborTable` — the neighbors and their links.
* `NeighborTable.attach`, `NeighborTable.remove`, `NeighborTable.hangUp` — what happens to links.
* `NeighborTable.send`, `NeighborTable.broadcast` — packets for one neighbor and for all.
-/

namespace OverlayStack

/-- The link to a neighbor. -/
structure NeighborLink where
  /-- Whether the neighbor has hung up, which shows when something is sent. -/
  hungUp : Bool := false
  /-- What has arrived of an unfinished frame. -/
  unread : Bytes := []

/-- A neighbor. -/
structure Neighbor where
  address : Address
  /-- The link to it, if there is one. -/
  link : Option NeighborLink := none

/-- Whether there is a link to a neighbor. -/
def Neighbor.isConnected (n : Neighbor) : Bool :=
  n.link.isSome

/-- The neighbors of a node that have not been removed. -/
abbrev NeighborTable := NodeMap Neighbor

namespace NeighborTable

/-- The neighbors of a node, without links. -/
def start (t : Topology) (me : NodeId) : NeighborTable :=
  (t.hosts.filter fun id _ => (t.link? me id).isSome).map fun _ host => { address := host.address }

/-- The neighbors that have a link, in ascending order. -/
def connected (t : NeighborTable) : List NodeId :=
  (t.filter fun _ n => n.isConnected).keys

/-- Whether every neighbor has a link. -/
def allConnected (t : NeighborTable) : Bool :=
  t.entries.all fun e => e.2.isConnected

/-- Whether a link to a node can be added: it is a neighbor, and has none. -/
def canAttach (t : NeighborTable) (id : NodeId) : Bool :=
  match t.find? id with
  | some n => !n.isConnected
  | none => false

/-- The table with a link to a node, if it can be added. -/
def attach (t : NeighborTable) (id : NodeId) : NeighborTable :=
  if t.canAttach id then t.modify id fun n => { n with link := some {} } else t

/-- The table without a neighbor. -/
def remove (t : NeighborTable) (id : NodeId) : NeighborTable :=
  t.erase id

/-- The table after a neighbor has hung up. -/
def hangUp (t : NeighborTable) (id : NodeId) : NeighborTable :=
  t.modify id fun n => { n with link := n.link.map fun l => { l with hungUp := true } }

/-- The bytes that a packet puts on the link to a neighbor. -/
def send (t : NeighborTable) (id : NodeId) (p : Packet) : Except FrameError Bytes :=
  match (t.find? id).bind (·.link) with
  | none => .error (.closed .absent)
  | some l => if l.hungUp then .error (.closed .hungUp) else .ok (Frame.write none p)

/-- The bytes that a packet for all neighbors puts on their links.  Neighbors that cannot be reached
are left out. -/
def broadcast (t : NeighborTable) (p : Packet) : List (NodeId × Bytes) :=
  t.connected.filterMap fun id => (t.send id p).toOption.map fun bs => (id, bs)

end NeighborTable

end OverlayStack
