import OverlayStack.NodeMap
import OverlayStack.Text.Number

/-!
# Routing tables

A routing table says to which neighbor packets for a destination go next.  It is a hash table: the
number of the destination modulo the number of buckets names the bucket that holds its route.

## Main definitions

* `Route`, `RoutingTable` — the routes and the buckets that hold them.
* `RoutingTable.set`, `RoutingTable.remove`, `RoutingTable.next?` — changes and look-ups.
* `RoutingTable.routes`, `RoutingTable.via` — the routes in ascending order, and the destinations
  that are reached through a neighbor.
-/

namespace OverlayStack

/-- Where packets for a destination go next. -/
structure Route where
  /-- The destination. -/
  dest : NodeId
  /-- The neighbor on the way to it. -/
  next : NodeId
  deriving DecidableEq, Repr

/-- The text of a list of routes. -/
def routesText (routes : List Route) : String :=
  "Routing table: dest -> next\n" ++
    String.join (routes.map fun r => s!"  {Text.column 5 r.dest.toNat} -> {r.next}\n")

/-- Routes in buckets. -/
structure RoutingTable where
  buckets : List (List Route)
  /-- There is at least one bucket. -/
  nonempty : 0 < buckets.length

namespace RoutingTable

/-! ### Buckets -/

/-- A bucket with the route of one destination set, which is put at the end if it is new. -/
def setIn (dest next : NodeId) : List Route → List Route
  | [] => [⟨dest, next⟩]
  | r :: rest => if r.dest = dest then ⟨dest, next⟩ :: rest else r :: setIn dest next rest

/-- A bucket without the route of one destination. -/
def removeIn (dest : NodeId) (bucket : List Route) : List Route :=
  bucket.filter fun r => r.dest != dest

/-! ### Tables -/

/-- The table without routes that has the given number of buckets, or one if that is zero. -/
def withSlots (slots : Nat) : RoutingTable :=
  ⟨List.replicate (max slots 1) [], by rw [List.length_replicate]; omega⟩

/-- The number of buckets of a table for which none is asked. -/
def defaultSlots : Nat := 10

/-- The place of the bucket for a destination. -/
def slot (t : RoutingTable) (dest : NodeId) : Nat :=
  dest.toNat % t.buckets.length

/-- The place of the bucket for a destination exists. -/
theorem slot_lt (t : RoutingTable) (dest : NodeId) : t.slot dest < t.buckets.length :=
  Nat.mod_lt _ t.nonempty

/-- The bucket for a destination. -/
def bucket (t : RoutingTable) (dest : NodeId) : List Route :=
  t.buckets.get ⟨t.slot dest, t.slot_lt dest⟩

/-- The table with the bucket for a destination changed. -/
def modifyBucket (t : RoutingTable) (dest : NodeId) (f : List Route → List Route) : RoutingTable :=
  ⟨t.buckets.modify (t.slot dest) f, by rw [List.length_modify]; exact t.nonempty⟩

/-- The table with the route of one destination set. -/
def set (t : RoutingTable) (dest next : NodeId) : RoutingTable :=
  t.modifyBucket dest (setIn dest next)

/-- The table without the route of one destination. -/
def remove (t : RoutingTable) (dest : NodeId) : RoutingTable :=
  t.modifyBucket dest (removeIn dest)

/-- The table in which every neighbor is reached directly. -/
def ofNeighbors (slots : Nat) (neighbors : List NodeId) : RoutingTable :=
  neighbors.foldl (fun t n => t.set n n) (withSlots slots)

/-- Where packets for a destination go next. -/
def next? (t : RoutingTable) (dest : NodeId) : Option NodeId :=
  ((t.bucket dest).find? fun r => r.dest == dest).map (·.next)

/-- Whether a destination has a route. -/
def contains (t : RoutingTable) (dest : NodeId) : Bool :=
  (t.bucket dest).any fun r => r.dest == dest

/-- The routes, in ascending order of their destinations. -/
def routes (t : RoutingTable) : List Route :=
  t.buckets.flatten.mergeSort fun r s => r.dest ≤ s.dest

/-- The destinations that are reached through a neighbor, in ascending order. -/
def via (t : RoutingTable) (next : NodeId) : List NodeId :=
  (t.routes.filter fun r => r.next == next).map (·.dest)

/-- The number of routes. -/
def size (t : RoutingTable) : Nat :=
  t.buckets.flatten.length

/-- Whether there are no routes. -/
def isEmpty (t : RoutingTable) : Bool :=
  t.size == 0

/-- The text of a table. -/
def text (t : RoutingTable) : String :=
  routesText t.routes

/-- Every route of a table is in one of its buckets. -/
theorem mem_routes_iff {t : RoutingTable} {r : Route} :
    r ∈ t.routes ↔ ∃ b ∈ t.buckets, r ∈ b := by
  rw [routes, List.mem_mergeSort, List.mem_flatten]

/-- The size counts the routes. -/
theorem length_routes (t : RoutingTable) : t.routes.length = t.size := by
  rw [routes, List.length_mergeSort, size]

end RoutingTable

end OverlayStack
