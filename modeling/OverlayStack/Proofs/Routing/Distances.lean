import OverlayStack.Proofs.Routing.InPlace

/-!
# Distances after failures

A link graph starts with all nodes of its topology, and nodes are removed from it one after another.
Names of nodes that are not there, or not there any more, are ignored.

## Main definitions

* `LinkGraph.afterRemovals` — the graph of a topology after some removals.

## Main results

* `LinkGraph.mem_removed_foldl_iff` — the nodes that are gone after some removals.
* `LinkGraph.cheapest_distance` — the distances of a graph are the costs of cheapest walks.
* `LinkGraph.distance_afterRemovals` — the distances after any removals, and how they are computed.
-/

namespace OverlayStack

open OverlayStack.Topology

/-- Walks only depend on which nodes of the topology have failed. -/
theorem Topology.Walk.of_gone_subset {t : Topology} {gone gone' : List NodeId}
    (hsub : ∀ x ∈ t.nodeIds, x ∈ gone' → x ∈ gone) {a b : NodeId} {stops : List NodeId} {w : Nat}
    (h : t.Walk gone a stops b w) : t.Walk gone' a stops b w := by
  have halive : ∀ {x}, t.Alive gone x → t.Alive gone' x :=
    fun hx => ⟨hx.1, fun hmem => hx.2 (hsub _ hx.1 hmem)⟩
  induction h with
  | stay ha => exact .stay (halive ha)
  | step ha hl _ ih => exact .step (halive ha) hl ih

namespace LinkGraph

@[simp] theorem topology_start (t : Topology) : (start t).topology = t := rfl

@[simp] theorem removed_start (t : Topology) : (start t).removed = [] := rfl

@[simp] theorem topology_remove (g : LinkGraph) (node : NodeId) :
    (g.remove node).topology = g.topology := by
  rw [remove]
  split <;> rfl

theorem mem_removed_remove_iff {g : LinkGraph} {node x : NodeId} :
    x ∈ (g.remove node).removed ↔ x ∈ g.removed ∨ x = node ∧ x ∈ g.topology.nodeIds := by
  rw [remove]
  by_cases h : g.canRemove node = true
  · have hnode : node ∈ g.topology.nodeIds := by
      rw [canRemove, Bool.and_eq_true, List.contains_iff_mem] at h
      exact h.1
    rw [if_pos h, List.mem_cons]
    constructor
    · rintro (rfl | hx)
      · exact .inr ⟨rfl, hnode⟩
      · exact .inl hx
    · rintro (hx | ⟨rfl, -⟩)
      · exact .inr hx
      · exact .inl rfl
  · rw [if_neg h]
    refine ⟨.inl, ?_⟩
    rintro (hx | ⟨rfl, hmem⟩)
    · exact hx
    -- a node of the topology that cannot be removed is gone already
    · by_contra hx
      refine h ?_
      rw [canRemove, isRemoved, nodeIds]
      simp [hx, hmem]

@[simp] theorem topology_foldl_remove (removals : List NodeId) :
    ∀ g : LinkGraph, (removals.foldl remove g).topology = g.topology := by
  induction removals with
  | nil => intro g; rfl
  | cons node removals ih =>
    intro g
    rw [List.foldl_cons, ih, topology_remove]

/-- After some removals just the nodes of the topology among them are gone. -/
theorem mem_removed_foldl_iff {x : NodeId} (removals : List NodeId) :
    ∀ g : LinkGraph, x ∈ (removals.foldl remove g).removed ↔
      x ∈ g.removed ∨ x ∈ removals ∧ x ∈ g.topology.nodeIds := by
  induction removals with
  | nil => intro g; simp
  | cons node removals ih =>
    intro g
    rw [List.foldl_cons, ih, mem_removed_remove_iff, topology_remove, List.mem_cons]
    tauto

/-- The distances of a graph are the costs of cheapest walks. -/
theorem cheapest_distance (g : LinkGraph) {a b : NodeId} (ha : a ∈ g.topology.nodeIds)
    (hb : b ∈ g.topology.nodeIds) :
    g.topology.Cheapest g.removed a b (g.distance a b).toNat := by
  obtain ⟨p, hp, hc⟩ := shows_shortestPaths g.topology g.removed ha hb
  rw [distance, path, g.paths_eq]
  rw [PathTable.way?] at hp
  rwa [hp, Option.getD_some]

/-- The graph of a topology after some nodes were removed one after another. -/
def afterRemovals (t : Topology) (removals : List NodeId) : LinkGraph :=
  removals.foldl remove (start t)

@[simp] theorem topology_afterRemovals (t : Topology) (removals : List NodeId) :
    (afterRemovals t removals).topology = t := by
  rw [afterRemovals, topology_foldl_remove, topology_start]

theorem mem_removed_afterRemovals_iff {t : Topology} {removals : List NodeId} {x : NodeId}
    (hx : x ∈ t.nodeIds) : x ∈ (afterRemovals t removals).removed ↔ x ∈ removals := by
  rw [afterRemovals, mem_removed_foldl_iff, removed_start, topology_start]
  simp [hx]

/-- The distances after any removals are the costs of cheapest walks over the other nodes. -/
theorem cheapest_distance_afterRemovals {t : Topology} (removals : List NodeId) {a b : NodeId}
    (ha : a ∈ t.nodeIds) (hb : b ∈ t.nodeIds) :
    t.Cheapest removals a b ((afterRemovals t removals).distance a b).toNat := by
  have h := cheapest_distance (afterRemovals t removals) (a := a) (b := b)
    (by rwa [topology_afterRemovals]) (by rwa [topology_afterRemovals])
  rw [topology_afterRemovals] at h
  refine ⟨h.1.imp_right fun ⟨stops, hw⟩ =>
    ⟨stops, hw.of_gone_subset fun x hx => (mem_removed_afterRemovals_iff hx).2⟩, ?_⟩
  rintro w (rfl | ⟨stops, hw⟩)
  · exact h.2 (.inl rfl)
  · exact h.2 (.inr ⟨stops, hw.of_gone_subset fun x hx => (mem_removed_afterRemovals_iff hx).1⟩)

/-- A node that is gone is out of reach. -/
theorem distance_afterRemovals_of_mem {t : Topology} {removals : List NodeId} {a b : NodeId}
    (ha : a ∈ t.nodeIds) (hb : b ∈ t.nodeIds) (h : a ∈ removals ∨ b ∈ removals) :
    (afterRemovals t removals).distance a b = infiniteCost := by
  rw [← UInt32.toNat_inj]
  rcases (cheapest_distance_afterRemovals removals ha hb).1 with hinf | ⟨stops, hw⟩
  · exact hinf
  · rcases h with h | h
    · exact absurd h hw.alive_left.2
    · exact absurd h hw.alive_right.2

/-- A node that is not gone is at distance zero from itself. -/
theorem distance_afterRemovals_self {t : Topology} {removals : List NodeId} {a : NodeId}
    (ha : a ∈ t.nodeIds) (h : a ∉ removals) : (afterRemovals t removals).distance a a = 0 := by
  rw [← UInt32.toNat_inj]
  exact Nat.le_zero.1 ((cheapest_distance_afterRemovals removals ha ha).le_walk (.stay ⟨ha, h⟩))

/-- **Distances after any removals.**  A node that is gone is out of reach, a node that is not is at
distance zero from itself, and the distance between two nodes is the least cost of the walks over
nodes that are not gone, or the infinite cost.  The same comes out if the entries of the table are
improved one by one and in place, and then no sum of two costs wraps around. -/
theorem distance_afterRemovals (t : Topology) (removals : List NodeId) :
    (∀ a ∈ t.nodeIds, ∀ b ∈ t.nodeIds,
      (a ∈ removals ∨ b ∈ removals →
        (afterRemovals t removals).distance a b = infiniteCost) ∧
      (a ∉ removals → (afterRemovals t removals).distance a a = 0) ∧
      (a ∉ removals → b ∉ removals →
        t.Cheapest removals a b ((afterRemovals t removals).distance a b).toNat)) ∧
    PathTable.Agrees t (t.improvedInPlace (afterRemovals t removals).removed t.cells)
      (afterRemovals t removals).paths ∧
    ∀ done c rest, t.cells = done ++ c :: rest → ∀ first second,
      (t.improvedInPlace (afterRemovals t removals).removed done).way? c.source c.stop =
        some first →
      (t.improvedInPlace (afterRemovals t removals).removed done).way? c.stop c.dest =
        some second →
      first.exists = true → second.exists = true →
      (first.cost + second.cost).toNat = first.cost.toNat + second.cost.toNat := by
  refine ⟨fun a ha b hb => ⟨distance_afterRemovals_of_mem ha hb,
    distance_afterRemovals_self ha,
    fun _ _ => cheapest_distance_afterRemovals removals ha hb⟩, ?_, ?_⟩
  · rw [(afterRemovals t removals).paths_eq, topology_afterRemovals]
    exact agrees_improvedInPlace t _
  · intro _ _ _ _ first second _ _ hfirst hsecond
    exact Path.toNat_cost_add hfirst hsecond

/-- Without its second node, the chorded line is crossed the other way around. -/
theorem distance_afterRemovals_chordedLine :
    chordedLine.Cheapest [2] 1 3 ((afterRemovals chordedLine [2]).distance 1 3).toNat ∧
      (afterRemovals chordedLine [2]).distance 1 3 = 6 ∧
      (afterRemovals chordedLine [2]).distance 1 2 = infiniteCost ∧
      (afterRemovals chordedLine [2]).distance 4 4 = 0 ∧
      ∃ done c rest first second, chordedLine.cells = done ++ c :: rest ∧
        (chordedLine.improvedInPlace [2] done).way? c.source c.stop = some first ∧
        (chordedLine.improvedInPlace [2] done).way? c.stop c.dest = some second ∧
        (first.cost + second.cost).toNat = first.cost.toNat + second.cost.toNat := by
  obtain ⟨hdist, -, hadd⟩ := distance_afterRemovals chordedLine [2]
  refine ⟨(hdist 1 (by decide) 3 (by decide)).2.2 (by decide) (by decide), by decide,
    (hdist 1 (by decide) 2 (by decide)).1 (.inr (by decide)),
    (hdist 4 (by decide) 4 (by decide)).2.1 (by decide), ?_⟩
  -- the way from node 1 to node 3 is found when node 4 is allowed as a stop
  exact ⟨chordedLine.cells.take 50, ⟨4, 1, 3⟩, chordedLine.cells.drop 51, ⟨5, some 4⟩,
    ⟨1, some 3⟩, by decide +kernel, by decide +kernel, by decide +kernel,
    hadd (chordedLine.cells.take 50) ⟨4, 1, 3⟩ (chordedLine.cells.drop 51) (by decide +kernel) _ _
      (by decide +kernel) (by decide +kernel) (by decide) (by decide)⟩

end LinkGraph

end OverlayStack
