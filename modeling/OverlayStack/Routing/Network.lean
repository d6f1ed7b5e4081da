import OverlayStack.Routing.Router

/-!
# A network of routers

The routers of all live nodes of a topology, and how news travel between them: advertisements in
rounds, and notices of a failure from neighbor to neighbor until nobody passes them on.

## Main definitions

* `Network` — the routers of the live nodes.
* `Network.round` — every live node advertises once to its neighbors.
* `Delivery`, `Network.deliver` — one packet on a link, and what its receiver does about it.
* `Network.flood` — packets are delivered in order until none is left.
* `Network.fail` — a node fails, and its neighbors are told.
-/

namespace OverlayStack

/-- The routers of the live nodes of a topology. -/
structure Network where
  /-- The topology, with all nodes. -/
  topology : Topology
  /-- The router of each live node. -/
  routers : NodeMap Router

/-- A packet on a link. -/
structure Delivery where
  /-- The node that sends it. -/
  sender : NodeId
  /-- The node that is to get it. -/
  receiver : NodeId
  packet : Packet

namespace Network

/-- The network in which every node is alive and has learned nothing yet. -/
def start (mode : RoutingMode) (t : Topology) (slots : Nat) : Network :=
  ⟨t, t.hosts.map fun id _ => Router.start mode t id slots⟩

/-- The packets from a node to each of its neighbors. -/
def toNeighbors (n : Network) (sender : NodeId) (p : Packet) : List Delivery :=
  (n.topology.neighborIds sender).map fun receiver => ⟨sender, receiver, p⟩

/-- The network after a node has got a route update, and the packets that it sends.  Nodes that are
not alive get nothing, and updates that cannot be applied change nothing. -/
def update (n : Network) (receiver source : NodeId) (u : RouteUpdate) : Network × List Packet :=
  match n.routers.find? receiver with
  | none => (n, [])
  | some r =>
    match r.handle source u with
    | .error _ => (n, [])
    | .ok (r, replies) => ({ n with routers := n.routers.insert receiver r }, replies)

/-- The advertisements of all live nodes, in ascending order of the nodes. -/
def advertisements (n : Network) : List (NodeId × RouteUpdate) :=
  n.routers.entries.filterMap fun e => e.2.advertisement?.map fun u => (e.1, u)

/-- The network after an advertisement has reached the neighbors of its sender. -/
def advertise (n : Network) (advert : NodeId × RouteUpdate) : Network :=
  (n.topology.neighborIds advert.1).foldl (fun n receiver =>
    (n.update receiver advert.1 advert.2).1) n

/-- The network after every live node has advertised once.  All advertisements are collected before
the first one is delivered. -/
def round (n : Network) : Network :=
  n.advertisements.foldl advertise n

/-- The network after a packet was delivered to a live node, and the packets that this causes. -/
def deliver (n : Network) (d : Delivery) : Network × List Delivery :=
  match RouteUpdate.read d.packet.payload with
  | .error _ => (n, [])
  | .ok u =>
    let (n, replies) := n.update d.receiver d.packet.source u
    (n, replies.flatMap (n.toNeighbors d.receiver))

/-- Delivers packets in order, together with those that this causes, until none is left or the given
number has been delivered.  Packets for nodes that are not alive are dropped and not counted.  The
result has the network and the packets that were delivered. -/
def flood (n : Network) : Nat → List Delivery → Network × List Delivery
  | 0, _ => (n, [])
  | _ + 1, [] => (n, [])
  | limit + 1, d :: queue =>
    if n.routers.contains d.receiver then
      let (n, caused) := n.deliver d
      let (n, log) := flood n limit (queue ++ caused)
      (n, d :: log)
    else flood n (limit + 1) queue
termination_by limit queue => (limit, queue.length)

/-- The network after a node has failed and the notices of its failure, at most a given number of
them, have been delivered. -/
def fail (n : Network) (node : NodeId) (limit : Nat) : Network × List Delivery :=
  let n := { n with routers := n.routers.erase node }
  n.flood limit (n.toNeighbors node (Packet.failureNotice node))

end Network

end OverlayStack
