import OverlayStack.Overlay.Neighbors

/-!
# Overlay nodes

A node of the overlay relays packets between its neighbors and the network layer of its host.  A
lost neighbor is reported to the network layer, and a lost network layer to the neighbors, by a
notice of failure.

## Main definitions

* `OverlayNode` — the state of a node.
* `OverlayOutput` — what a node sends.
* `OverlayNode.dials`, `OverlayNode.admits` — which neighbors are called, and which may call.
* `OverlayNode.fromNeighbor`, `OverlayNode.loseNeighbor` — what a neighbor's link brings.
* `OverlayNode.fromNetwork`, `OverlayNode.loseNetwork` — what the network layer's link brings.
-/

namespace OverlayStack

/-- The state of a node of the overlay. -/
structure OverlayNode where
  /-- The number of the node. -/
  me : NodeId
  address : Address
  neighbors : NeighborTable
  /-- What has arrived of an unfinished frame from the network layer, if that is connected. -/
  network : Option Bytes := none

/-- What a node sends. -/
inductive OverlayOutput where
  /-- Bytes to the network layer. -/
  | toNetwork (bs : Bytes)
  /-- Bytes to a neighbor. -/
  | toNeighbor (id : NodeId) (bs : Bytes)
  deriving DecidableEq, Repr

/-- A node that is to take part in the overlay and does not belong to the topology. -/
structure OutsideTopology where
  node : NodeId

/-- The wording of the error. -/
def OutsideTopology.message (e : OutsideTopology) : String :=
  s!"Node {e.node} is not part of the topology."

namespace OverlayNode

/-- A node without links. -/
def start (t : Topology) (me : NodeId) : Except OutsideTopology OverlayNode :=
  match t.hosts.find? me with
  | none => .error ⟨me⟩
  | some host => .ok { me, address := host.address, neighbors := NeighborTable.start t me }

/-! ### Links to neighbors -/

/-- The neighbors that the node calls: those with smaller numbers. -/
def dials (o : OverlayNode) : List NodeId :=
  o.neighbors.keys.filter (· < o.me)

/-- What the node says first when it calls a neighbor. -/
def hello (o : OverlayNode) : Bytes :=
  Bytes.ofWord32 o.me

/-- Whether a caller is let in that says hello: it has a larger number, and is a neighbor without a
link. -/
def admits (o : OverlayNode) (hello : Bytes) : Option NodeId :=
  match Bytes.splitWord32? hello with
  | none => none
  | some (id, _) => if o.me < id && o.neighbors.canAttach id then some id else none

/-- The node with a link to a neighbor. -/
def attach (o : OverlayNode) (id : NodeId) : OverlayNode :=
  { o with neighbors := o.neighbors.attach id }

/-! ### Relaying -/

/-- What the node sends to the network layer for a packet. -/
def toNetwork (o : OverlayNode) (p : Packet) : List OverlayOutput :=
  if o.network.isSome then [.toNetwork (Frame.write none p)] else []

/-- What the node sends to its neighbors for a packet that all are to get. -/
def toAll (o : OverlayNode) (p : Packet) : List OverlayOutput :=
  (o.neighbors.broadcast p).map fun (id, bs) => .toNeighbor id bs

/-- What the node sends to a neighbor, or to all of them, for a packet. -/
def toNext (o : OverlayNode) (next : NodeId) (p : Packet) : List OverlayOutput :=
  if next = broadcastId then o.toAll p
  else
    match o.neighbors.send next p with
    | .error _ => []
    | .ok bs => [.toNeighbor next bs]

/-- What the node sends for a read from a neighbor. -/
def relayInward (o : OverlayNode) (read : Except FrameError (Option NodeId × Bytes)) :
    List OverlayOutput :=
  match Frame.decoded Packet read with
  | .ok (_, p) => o.toNetwork p
  | .error _ => []

/-- What the node sends for a read from the network layer. -/
def relayOutward (o : OverlayNode) (read : Except FrameError (Option NodeId × Bytes)) :
    List OverlayOutput :=
  match Frame.decoded Packet read with
  | .ok (some next, p) => o.toNext next p
  | _ => []

/-- The node after bytes from a neighbor, and what it sends. -/
def fromNeighbor (o : OverlayNode) (id : NodeId) (bs : Bytes) : OverlayNode × List OverlayOutput :=
  match (o.neighbors.find? id).bind (·.link) with
  | none => (o, [])
  | some l =>
    let (reads, rest) := Frame.readAvailable Packet false (l.unread ++ bs)
    let neighbors := o.neighbors.modify id fun n =>
      { n with link := some { l with unread := rest } }
    ({ o with neighbors }, reads.flatMap o.relayInward)

/-- The node after it has lost a neighbor, and what it sends. -/
def loseNeighbor (o : OverlayNode) (id : NodeId) : OverlayNode × List OverlayOutput :=
  ({ o with neighbors := o.neighbors.remove id }, o.toNetwork (Packet.failureNotice id))

/-- The node with a network layer connected. -/
def connectNetwork (o : OverlayNode) : OverlayNode :=
  { o with network := some [] }

/-- The node after bytes from the network layer, and what it sends. -/
def fromNetwork (o : OverlayNode) (bs : Bytes) : OverlayNode × List OverlayOutput :=
  match o.network with
  | none => (o, [])
  | some unread =>
    let (reads, rest) := Frame.readAvailable Packet true (unread ++ bs)
    ({ o with network := some rest }, reads.flatMap o.relayOutward)

/-- The node after it has lost the network layer, and what it sends. -/
def loseNetwork (o : OverlayNode) : OverlayNode × List OverlayOutput :=
  ({ o with network := none }, o.toAll (Packet.failureNotice o.me))

end OverlayNode

end OverlayStack
