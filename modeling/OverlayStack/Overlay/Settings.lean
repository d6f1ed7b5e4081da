import OverlayStack.Routing.Table

/-!
# Settings of a node

Times are in milliseconds.

## Main definitions

* `NodeSettings` — the ports and times of the overlay and network layers of a node.
-/

namespace OverlayStack

/-- The ports and times of the overlay and network layers of a node. -/
structure NodeSettings where
  /-- Where neighbors connect. -/
  connectionPort : UInt16 := 3490
  /-- Where the network layer of the node connects to the overlay. -/
  overlayPort : UInt16 := 3491
  /-- Where the transport layer of the node connects to the network layer. -/
  networkPort : UInt16 := 3492
  /-- How long to keep dialing a neighbor. -/
  neighborTimeout : Nat := 30000
  /-- The time between two advertisements of routes. -/
  advertInterval : Nat := 5000
  /-- How long routes are given to settle before segments are accepted. -/
  settleTime : Nat := 30000
  /-- The number of buckets of the routing table. -/
  slots : Nat := RoutingTable.defaultSlots

end OverlayStack
