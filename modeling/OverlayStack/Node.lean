/-!
# Nodes and costs

The overlay joins a fixed set of nodes by links that have a cost.  Both are 32 bit words, because
that is how they travel in packets.

## Main definitions

* `NodeId`, `Cost` — the words that name a node and price a link.
* `infiniteCost` — the cost from which a node counts as out of reach.
* `addCost` — the cost of one way followed by another.
* `broadcastId` — the address of a packet that every neighbor is to get.
-/

namespace OverlayStack

/-- The number of a node.  The nodes of a topology have numbers below 256. -/
abbrev NodeId := UInt32

/-- The cost of a link, or of a path made of links. -/
abbrev Cost := UInt32

/-- The cost of what cannot be reached. -/
def infiniteCost : Cost := 999

/-- The sum of two costs, or the greatest word if the sum is too large for one. -/
def addCost (a b : Cost) : Cost :=
  UInt32.ofNat (min (a.toNat + b.toNat) 4294967295)

theorem toNat_addCost (a b : Cost) :
    (addCost a b).toNat = min (a.toNat + b.toNat) 4294967295 := by
  simp only [addCost, UInt32.toNat_ofNat']
  omega

/-- The address that stands for every neighbor. -/
def broadcastId : NodeId := 9999

end OverlayStack
