import OverlayStack.Routing.Table

/-!
# Look-ups in routing tables

What a change to a routing table does to the answers of `RoutingTable.next?`.  Two destinations can
share a bucket, so each statement is first one about a single bucket.

## Main results

* `RoutingTable.next?_set` — setting the route of one destination.
* `RoutingTable.next?_ofNeighbors` — the table of a node that knows its neighbors only.
-/

namespace OverlayStack

namespace RoutingTable

theorem find?_setIn (dest next x : NodeId) (bucket : List Route) :
    (setIn dest next bucket).find? (fun r => r.dest == x) =
      if x = dest then some ⟨dest, next⟩ else bucket.find? fun r => r.dest == x := by
  induction bucket with
  | nil => by_cases hx : x = dest <;> simp [setIn, hx, Ne.symm]
  | cons r rest ih =>
    rw [setIn]
    by_cases hr : r.dest = dest
    · rw [if_pos hr]
      by_cases hx : x = dest
      · simp [hx]
      · simp [hr, hx, Ne.symm hx]
    · rw [if_neg hr, List.find?_cons, List.find?_cons, ih]
      by_cases hx : x = dest
      · subst hx
        rw [beq_eq_false_iff_ne.2 hr, if_pos rfl]
      · simp only [if_neg hx]

theorem bucket_modifyBucket (t : RoutingTable) (dest x : NodeId) (f : List Route → List Route) :
    (t.modifyBucket dest f).bucket x =
      if t.slot x = t.slot dest then f (t.bucket x) else t.bucket x := by
  have hslot : (t.modifyBucket dest f).slot x = t.slot x := by
    unfold slot modifyBucket
    rw [List.length_modify]
  unfold bucket
  simp only [List.get_eq_getElem, hslot]
  simp only [modifyBucket, List.getElem_modify, eq_comm (a := t.slot dest)]

/-- Setting the route of one destination leaves those of the others alone. -/
@[simp] theorem next?_set (t : RoutingTable) (dest next x : NodeId) :
    (t.set dest next).next? x = if x = dest then some next else t.next? x := by
  unfold next? set
  rw [bucket_modifyBucket]
  by_cases hx : x = dest
  · rw [if_pos (by rw [hx]), find?_setIn, if_pos hx, if_pos hx]
    rfl
  · by_cases hslot : t.slot x = t.slot dest
    · rw [if_pos hslot, find?_setIn, if_neg hx, if_neg hx]
    · rw [if_neg hslot, if_neg hx]

@[simp] theorem next?_withSlots (slots : Nat) (x : NodeId) : (withSlots slots).next? x = none := by
  unfold next? bucket withSlots
  simp

theorem next?_foldl_set (neighbors : List NodeId) (x : NodeId) :
    ∀ t : RoutingTable, (neighbors.foldl (fun t n => t.set n n) t).next? x =
      if x ∈ neighbors then some x else t.next? x := by
  induction neighbors with
  | nil => intro t; simp
  | cons n neighbors ih =>
    intro t
    rw [List.foldl_cons, ih, next?_set]
    by_cases hx : x = n <;> simp [hx]

/-- A node that knows its neighbors only reaches each of them directly. -/
theorem next?_ofNeighbors (slots : Nat) (neighbors : List NodeId) (x : NodeId) :
    (ofNeighbors slots neighbors).next? x = if x ∈ neighbors then some x else none := by
  rw [ofNeighbors, next?_foldl_set, next?_withSlots]

end RoutingTable

end OverlayStack
