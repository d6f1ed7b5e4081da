import OverlayStack.Proofs.NodeMaps
import OverlayStack.Proofs.Routing.RouteLookup

/-!
# Listing the routes of a table

The list of all routes shows the same as the look-ups do, if each route is in the bucket for its
destination and no bucket has two routes for one destination.  All tables that come from changes to
the empty one are like that, whatever the number of their buckets.

## Main definitions

* `RoutingTable.Tidy` — every route is in its bucket, and alone there with its destination.

## Main results

* `RoutingTable.mem_routes_iff_next?` — the routes that are listed are those that are looked up.
* `RoutingTable.routes_eq_of_next?` — tables that answer all look-ups alike list the same routes.
* `RoutingTable.filter_routes` — a destination is listed once, or not at all.
-/

namespace OverlayStack

namespace RoutingTable

/-! ### Removing a route -/

theorem find?_removeIn (dest x : NodeId) (bucket : List Route) :
    (removeIn dest bucket).find? (fun r => r.dest == x) =
      if x = dest then none else bucket.find? fun r => r.dest == x := by
  induction bucket with
  | nil => simp [removeIn]
  | cons r rest ih =>
    rw [removeIn] at ih ⊢
    by_cases hr : r.dest = dest
    · rw [List.filter_cons_of_neg (by simp [hr]), ih]
      by_cases hx : x = dest
      · rw [if_pos hx, if_pos hx]
      · rw [if_neg hx, if_neg hx, List.find?_cons_of_neg]
        simpa [hr] using Ne.symm hx
    · rw [List.filter_cons_of_pos (by simpa using hr), List.find?_cons, List.find?_cons, ih]
      by_cases hx : x = dest
      · subst hx
        rw [beq_eq_false_iff_ne.2 hr, if_pos rfl]
      · simp only [if_neg hx]

/-- Removing the route of one destination leaves those of the others alone. -/
@[simp] theorem next?_remove (t : RoutingTable) (dest x : NodeId) :
    (t.remove dest).next? x = if x = dest then none else t.next? x := by
  unfold next? remove
  rw [bucket_modifyBucket]
  by_cases hx : x = dest
  · rw [if_pos (by rw [hx]), find?_removeIn, if_pos hx, if_pos hx]
    rfl
  · by_cases hslot : t.slot x = t.slot dest
    · rw [if_pos hslot, find?_removeIn, if_neg hx, if_neg hx]
    · rw [if_neg hslot, if_neg hx]

/-! ### Tidy tables -/

/-- Every route is in the bucket for its destination, and no other route there has the same. -/
structure Tidy (t : RoutingTable) : Prop where
  placed : ∀ i (hi : i < t.buckets.length), ∀ r ∈ t.buckets[i], t.slot r.dest = i
  single : ∀ b ∈ t.buckets, b.Pairwise fun r s => r.dest ≠ s.dest

theorem dest_of_mem_setIn {dest next : NodeId} {r : Route} {bucket : List Route}
    (h : r ∈ setIn dest next bucket) : r.dest = dest ∨ r ∈ bucket := by
  induction bucket with
  | nil =>
    rw [setIn, List.mem_singleton] at h
    exact .inl (h ▸ rfl)
  | cons s rest ih =>
    rw [setIn] at h
    split at h
    · rcases List.mem_cons.1 h with rfl | h
      · exact .inl rfl
      · exact .inr (List.mem_cons_of_mem _ h)
    · rcases List.mem_cons.1 h with rfl | h
      · exact .inr List.mem_cons_self
      · exact (ih h).imp_right (List.mem_cons_of_mem _)

theorem pairwise_setIn (dest next : NodeId) {bucket : List Route}
    (h : bucket.Pairwise fun r s => r.dest ≠ s.dest) :
    (setIn dest next bucket).Pairwise fun r s => r.dest ≠ s.dest := by
  induction bucket with
  | nil => exact List.pairwise_singleton _ _
  | cons r rest ih =>
    obtain ⟨hr, hrest⟩ := List.pairwise_cons.1 h
    rw [setIn]
    split
    · next heq =>
      apply List.pairwise_cons.2
      refine ⟨?_, hrest⟩
      intro s hs
      rw [← heq]
      exact hr s hs
    · next hne =>
      apply List.pairwise_cons.2
      refine ⟨?_, ih hrest⟩
      intro s hs
      rcases dest_of_mem_setIn hs with hd | hs
      · rw [hd]
        exact hne
      · exact hr s hs

/-- A change to the bucket for a destination that only brings in routes for that destination. -/
theorem Tidy.modifyBucket {t : RoutingTable} (h : t.Tidy) {dest : NodeId}
    {f : List Route → List Route} (hmem : ∀ b, ∀ r ∈ f b, r.dest = dest ∨ r ∈ b)
    (hsingle : ∀ b : List Route, (b.Pairwise fun r s => r.dest ≠ s.dest) →
      (f b).Pairwise fun r s => r.dest ≠ s.dest) : (t.modifyBucket dest f).Tidy := by
  have hslot : ∀ x, (t.modifyBucket dest f).slot x = t.slot x := by
    intro x
    unfold slot RoutingTable.modifyBucket
    rw [List.length_modify]
  constructor
  · intro i hi r hr
    have hi' : i < t.buckets.length := by
      simpa [RoutingTable.modifyBucket] using hi
    rw [hslot]
    simp only [RoutingTable.modifyBucket, List.getElem_modify] at hr
    split at hr
    · next heq =>
      rcases hmem _ r hr with hd | hr
      · rw [hd]
        exact heq
      · exact h.placed i hi' r hr
    · exact h.placed i hi' r hr
  · intro b hb
    obtain ⟨i, hi, rfl⟩ := List.getElem_of_mem hb
    have hi' : i < t.buckets.length := by
      simpa [RoutingTable.modifyBucket] using hi
    have hold := h.single _ (List.getElem_mem hi')
    simp only [RoutingTable.modifyBucket, List.getElem_modify]
    split
    · exact hsingle _ hold
    · exact hold

theorem Tidy.set {t : RoutingTable} (h : t.Tidy) (dest next : NodeId) : (t.set dest next).Tidy := by
  apply h.modifyBucket
  · intro b r hr
    exact dest_of_mem_setIn hr
  · intro b hb
    exact pairwise_setIn dest next hb

theorem Tidy.remove {t : RoutingTable} (h : t.Tidy) (dest : NodeId) : (t.remove dest).Tidy := by
  apply h.modifyBucket
  · intro b r hr
    exact .inr (List.mem_filter.1 hr).1
  · intro b hb
    exact hb.filter _

theorem tidy_withSlots (slots : Nat) : (withSlots slots).Tidy := by
  constructor
  · intro i hi r hr
    simp [withSlots] at hr
  · intro b hb
    rw [withSlots, List.mem_replicate] at hb
    rw [hb.2]
    exact List.Pairwise.nil

theorem tidy_ofNeighbors (slots : Nat) (neighbors : List NodeId) :
    (ofNeighbors slots neighbors).Tidy := by
  have hfold : ∀ t : RoutingTable, t.Tidy → (neighbors.foldl (fun t n => t.set n n) t).Tidy := by
    induction neighbors with
    | nil => intro t h; exact h
    | cons n neighbors ih =>
      intro t h
      exact ih _ (h.set n n)
  exact hfold _ (tidy_withSlots slots)

/-! ### The list of routes -/

/-- Look-ups find just the routes of a bucket. -/
theorem Tidy.mem_bucket_iff {t : RoutingTable} (h : t.Tidy) {r : Route} :
    r ∈ t.bucket r.dest ↔ t.next? r.dest = some r.next := by
  have hpair := h.single _ (List.getElem_mem (t.slot_lt r.dest))
  rw [next?, Option.map_eq_some_iff]
  constructor
  · intro hr
    obtain ⟨before, after, hsplit⟩ := List.append_of_mem hr
    refine ⟨r, ?_, rfl⟩
    rw [bucket, List.get_eq_getElem] at hsplit ⊢
    rw [hsplit, List.pairwise_append] at hpair
    rw [hsplit, List.find?_eq_some_iff_append]
    refine ⟨beq_self_eq_true _, before, after, rfl, ?_⟩
    intro s hs
    have hne := hpair.2.2 s hs r List.mem_cons_self
    simpa using hne
  · rintro ⟨⟨dest, next⟩, hs, hnext⟩
    have hdest : dest = r.dest := by simpa using List.find?_some hs
    have hmem := List.mem_of_find?_eq_some hs
    rw [hdest] at hmem
    subst hnext
    exact hmem

/-- **The routes that are listed are those that are looked up.** -/
theorem mem_routes_iff_next? {t : RoutingTable} (h : t.Tidy) {r : Route} :
    r ∈ t.routes ↔ t.next? r.dest = some r.next := by
  rw [mem_routes_iff, ← h.mem_bucket_iff]
  constructor
  · rintro ⟨b, hb, hr⟩
    obtain ⟨i, hi, rfl⟩ := List.getElem_of_mem hb
    obtain rfl := h.placed i hi r hr
    exact hr
  · intro hr
    exact ⟨_, List.getElem_mem (t.slot_lt r.dest), hr⟩

/-- The destinations that are reached through a neighbor. -/
theorem mem_via_iff {t : RoutingTable} (h : t.Tidy) {next dest : NodeId} :
    dest ∈ t.via next ↔ t.next? dest = some next := by
  simp only [via, List.mem_map, List.mem_filter, beq_iff_eq]
  constructor
  · rintro ⟨r, ⟨hr, rfl⟩, rfl⟩
    exact (mem_routes_iff_next? h).1 hr
  · intro hnext
    exact ⟨⟨dest, next⟩, ⟨(mem_routes_iff_next? h).2 hnext, rfl⟩, rfl⟩

/-- No destination is listed twice. -/
theorem pairwise_routes {t : RoutingTable} (h : t.Tidy) :
    t.routes.Pairwise fun r s => r.dest < s.dest := by
  have hflat : t.buckets.flatten.Pairwise fun r s => r.dest ≠ s.dest := by
    apply List.pairwise_flatten.2
    refine ⟨h.single, ?_⟩
    apply List.pairwise_iff_getElem.2
    intro i j hi hj hij r hr s hs heq
    have hi' := h.placed i hi r hr
    have hj' := h.placed j hj s hs
    rw [heq, hj'] at hi'
    omega
  have hne : t.routes.Pairwise fun r s => r.dest ≠ s.dest := by
    apply (List.Perm.pairwise_iff (fun {r s} => Ne.symm) (List.mergeSort_perm _ _)).2
    exact hflat
  have hle : t.routes.Pairwise fun r s => decide (r.dest ≤ s.dest) = true := by
    apply List.pairwise_mergeSort
    · intro r s u hrs hsu
      exact decide_eq_true (UInt32.le_trans (of_decide_eq_true hrs) (of_decide_eq_true hsu))
    · intro r s
      simpa using UInt32.le_total r.dest s.dest
  refine (hne.and hle).imp ?_
  intro r s hrs
  exact UInt32.lt_of_le_of_ne (of_decide_eq_true hrs.2) hrs.1

/-- **Tables that answer all look-ups alike list the same routes**, also if they do not have the
same number of buckets. -/
theorem routes_eq_of_next? {t t' : RoutingTable} (h : t.Tidy) (h' : t'.Tidy)
    (hnext : ∀ x, t.next? x = t'.next? x) : t.routes = t'.routes := by
  apply eq_of_pairwise_key (·.dest) (pairwise_routes h) (pairwise_routes h')
  intro r
  rw [mem_routes_iff_next? h, mem_routes_iff_next? h', hnext]

/-- **A destination is listed once, or not at all.** -/
theorem filter_routes {t : RoutingTable} (h : t.Tidy) (dest : NodeId) :
    (t.routes.filter fun r => r.dest == dest) =
      (t.next? dest).toList.map fun next => ⟨dest, next⟩ := by
  apply eq_of_pairwise_key (·.dest) ((pairwise_routes h).filter _)
  · cases t.next? dest with
    | none => exact List.Pairwise.nil
    | some next => exact List.pairwise_singleton _ _
  · intro r
    rw [List.mem_filter, mem_routes_iff_next? h, beq_iff_eq, List.mem_map]
    constructor
    · rintro ⟨hnext, rfl⟩
      exact ⟨r.next, Option.mem_toList.2 hnext, rfl⟩
    · rintro ⟨next, hnext, rfl⟩
      exact ⟨Option.mem_toList.1 hnext, rfl⟩

end RoutingTable

end OverlayStack
