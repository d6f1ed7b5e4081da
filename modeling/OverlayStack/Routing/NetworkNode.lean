import OverlayStack.Routing.Router
import OverlayStack.Wire.Frame

/-!
# Nodes of the network layer

A node takes packets from the overlay and segments from the transport layer of its host.  It applies
route updates, sends packets on towards their destinations, hands those that are for itself to the
transport layer, and advertises its routes from time to time.

## Main definitions

* `NetworkNode` — the state of a node.
* `NetworkOutput` — what a node sends.
* `NetworkNode.forward`, `NetworkNode.handle` — what it does with a packet.
* `NetworkNode.fromOverlay`, `NetworkNode.fromTransport` — what it does with what arrives.
* `NetworkNode.advertise` — a periodic advertisement.
-/

namespace OverlayStack

/-- The state of a node of the network layer. -/
structure NetworkNode where
  /-- The number of the node. -/
  me : NodeId
  /-- Its routes. -/
  router : Router
  /-- What has arrived of an unfinished frame from the transport layer, if that is attached. -/
  transport : Option Bytes := none
  /-- Whether packets from the overlay are still read. -/
  listening : Bool := true
  /-- Whether routes are still advertised. -/
  advertising : Bool := true

/-- What a node sends. -/
inductive NetworkOutput where
  /-- A packet for a neighbor, or for all of them, to the overlay. -/
  | toOverlay (next : NodeId) (p : Packet)
  /-- Bytes to the transport layer. -/
  | toTransport (bs : Bytes)
  deriving DecidableEq, Repr

/-- What becomes of an advertisement. -/
inductive Advert where
  /-- The node does not advertise, by the way in which it keeps its routes. -/
  | none
  /-- The overlay takes it. -/
  | sent (next : NodeId) (p : Packet)
  /-- The overlay does not take it. -/
  | refused
  /-- The node has stopped advertising. -/
  | stopped

namespace NetworkNode

/-- A node at the start. -/
def start (mode : RoutingMode) (t : Topology) (me : NodeId) (slots : Nat) : NetworkNode :=
  { me, router := Router.start mode t me slots }

/-- What a node sends for a packet that carries a segment: the segment to the transport layer, if
the packet is for this node, and else the packet to the next node.  Nothing is sent if no transport
layer is attached or there is no route. -/
def forward (n : NetworkNode) (p : Packet) : List NetworkOutput :=
  if p.dest = n.me then
    if n.transport.isSome then [.toTransport (Frame.wire (some p.source) p.payload)] else []
  else
    match n.router.nextHop p.dest with
    | some next => [.toOverlay next p]
    | none => []

/-- The node after a route update, and what it sends.  Updates that cannot be applied change
nothing. -/
def update (n : NetworkNode) (p : Packet) : NetworkNode × List NetworkOutput :=
  match RouteUpdate.read p.payload with
  | .error _ => (n, [])
  | .ok u =>
    match n.router.handle p.source u with
    | .error _ => (n, [])
    | .ok (router, replies) => ({ n with router }, replies.map (.toOverlay broadcastId))

/-- The node after a packet, and what it sends. -/
def handle (n : NetworkNode) (p : Packet) : NetworkNode × List NetworkOutput :=
  match p.kind with
  | .routeUpdate => n.update p
  | .data => (n, n.forward p)
  | .unknown => (n, [])

/-- The node after a read from the overlay, and what it sends.  An error that is not fatal costs one
packet; a fatal one ends the reading. -/
def fromOverlay (n : NetworkNode) (read : Except FrameError Packet) :
    NetworkNode × List NetworkOutput :=
  if n.listening then
    match read with
    | .ok p => n.handle p
    | .error e => ({ n with listening := !e.isFatal }, [])
  else (n, [])

/-- The node with a transport layer attached. -/
def attach (n : NetworkNode) : NetworkNode :=
  { n with transport := some [] }

/-- The node without a transport layer. -/
def detach (n : NetworkNode) : NetworkNode :=
  { n with transport := none }

/-- What a node sends for a read from the transport layer: the bytes of a segment with the node they
are for. -/
def forwardRead (n : NetworkNode) :
    Except FrameError (Option NodeId × Bytes) → List NetworkOutput
  | .error _ => []
  | .ok (dest, body) => n.forward (Packet.ofSegment n.me (dest.getD n.me) body)

/-- The node after bytes from the transport layer, and what it sends. -/
def fromTransport (n : NetworkNode) (bs : Bytes) : NetworkNode × List NetworkOutput :=
  match n.transport with
  | none => (n, [])
  | some unread =>
    let (reads, rest) := Frame.readAvailable Segment true (unread ++ bs)
    ({ n with transport := some rest }, reads.flatMap n.forwardRead)

/-- The packet in which a node advertises its routes. -/
def advertPacket? (n : NetworkNode) : Option Packet :=
  n.router.advertisement?.map (Packet.ofUpdate n.me)

/-- The node after it has advertised its routes, if it does, and what became of that.  `refusal` is
what the overlay says to the packet; a fatal refusal makes the node stop. -/
def advertise (n : NetworkNode) (refusal : Option FrameError) : NetworkNode × Advert :=
  match n.advertPacket? with
  | none => (n, .none)
  | some p =>
    if n.advertising then
      match refusal with
      | none => (n, .sent broadcastId p)
      | some e => ({ n with advertising := !e.isFatal }, .refused)
    else (n, .stopped)

end NetworkNode

end OverlayStack
