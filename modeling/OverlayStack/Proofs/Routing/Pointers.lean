import OverlayStack.Proofs.Routing.Descent
import OverlayStack.Proofs.Routing.Distances

/-!
# The next hops of a link graph

A way in a table of paths holds its cost and its first step.  A way that is improved over a stop
takes the first step of the way to that stop, so that the first steps for one destination come from
ways that were found at different times.  They still lead to the destination: allowing a stop keeps
the nodes in an order in which each first step goes down.

## Main definitions

* `PathTable.way` — the way between two nodes, or no way.
* `PathTable.Points` — the first steps for every destination go down in some order of the nodes, and
  there are none where there is no way.

## Main results

* `PathTable.Points.improveThrough` — allowing a stop keeps that.
* `LinkGraph.nextHop_afterRemovals` — following the next hops of a graph takes a shortest path.
-/

namespace OverlayStack

open OverlayStack.Topology

/-- The way between two nodes in a table. -/
def PathTable.way (paths : PathTable) (a b : NodeId) : Path :=
  (paths.way? a b).getD Path.none

theorem PathTable.way_eq {paths : PathTable} {a b : NodeId} {p : Path}
    (h : paths.way? a b = some p) : paths.way a b = p := by
  rw [way, h, Option.getD_some]

/-- Whether a way is cheaper over a stop. -/
def PathTable.Shortens (paths : PathTable) (stop a b : NodeId) : Prop :=
  (paths.way a stop).exists = true ∧ (paths.way stop b).exists = true ∧
    (paths.way a stop).cost.toNat + (paths.way stop b).cost.toNat < (paths.way a b).cost.toNat

namespace PathTable.Shows

variable {t : Topology} {gone via : List NodeId} {paths : PathTable} {stop a b : NodeId}

theorem cheapestVia (h : paths.Shows t gone via) (ha : a ∈ t.nodeIds) (hb : b ∈ t.nodeIds) :
    t.CheapestVia gone via a b (paths.way a b).cost.toNat := by
  obtain ⟨p, hp, hc⟩ := h a ha b hb
  rw [way_eq hp]
  exact hc

/-- Ways only exist between nodes that are alive. -/
theorem alive_of_exists (h : paths.Shows t gone via) (ha : a ∈ t.nodeIds) (hb : b ∈ t.nodeIds)
    (hex : (paths.way a b).exists = true) : t.Alive gone a := by
  have hlt := Path.exists_iff.1 hex
  rcases (h.cheapestVia ha hb).1 with hinf | hroute
  · rw [hinf] at hlt
    exact absurd hlt (Nat.lt_irrefl _)
  · exact hroute.alive_left

theorem way_improveThrough (h : paths.Shows t gone via) (hstop : stop ∈ t.nodeIds)
    (ha : a ∈ t.nodeIds) (hb : b ∈ t.nodeIds) :
    (OverlayStack.improveThrough paths stop).way a b =
      (paths.way a b).improve (paths.way a stop) (paths.way stop b) := by
  obtain ⟨p, hp, -⟩ := h a ha b hb
  obtain ⟨first, hfirst, -⟩ := h a ha stop hstop
  obtain ⟨second, hsecond, -⟩ := h stop hstop b hb
  rw [way_eq (way?_improveThrough hp hfirst hsecond), way_eq hp, way_eq hfirst, way_eq hsecond]

/-- A way that is cheaper over a stop takes the first step of the way to the stop. -/
theorem way_of_shortens (h : paths.Shows t gone via) (hstop : stop ∈ t.nodeIds)
    (ha : a ∈ t.nodeIds) (hb : b ∈ t.nodeIds) (hs : paths.Shortens stop a b) :
    (OverlayStack.improveThrough paths stop).way a b =
      (paths.way a stop).through (paths.way stop b) := by
  obtain ⟨hto, hfrom, hlt⟩ := hs
  rw [h.way_improveThrough hstop ha hb, Path.improve, if_pos]
  simp only [hto, hfrom, Bool.true_and, decide_eq_true_eq, UInt32.lt_iff_toNat_lt,
    Path.toNat_cost_add hto hfrom]
  exact hlt

/-- The other ways stay what they are. -/
theorem way_of_not_shortens (h : paths.Shows t gone via) (hstop : stop ∈ t.nodeIds)
    (ha : a ∈ t.nodeIds) (hb : b ∈ t.nodeIds) (hs : ¬ paths.Shortens stop a b) :
    (OverlayStack.improveThrough paths stop).way a b = paths.way a b := by
  rw [h.way_improveThrough hstop ha hb, Path.improve, if_neg]
  intro himp
  simp only [Bool.and_eq_true, decide_eq_true_eq, UInt32.lt_iff_toNat_lt] at himp
  obtain ⟨⟨hto, hfrom⟩, hlt⟩ := himp
  rw [Path.toNat_cost_add hto hfrom] at hlt
  exact hs ⟨hto, hfrom, hlt⟩

/-- The cost after a stop is allowed. -/
theorem toNat_cost_improveThrough (h : paths.Shows t gone via) (hstop : stop ∈ t.nodeIds)
    (ha : a ∈ t.nodeIds) (hb : b ∈ t.nodeIds) :
    ((OverlayStack.improveThrough paths stop).way a b).cost.toNat =
      min (paths.way a b).cost.toNat
        ((paths.way a stop).cost.toNat + (paths.way stop b).cost.toNat) := by
  rw [h.way_improveThrough hstop ha hb]
  apply Path.toNat_cost_improve
  exact (h.cheapestVia ha hb).2 (.inl rfl)

end PathTable.Shows

/-! ### First steps -/

/-- The first steps in a table go down to every destination. -/
structure PathTable.Points (t : Topology) (gone : List NodeId) (paths : PathTable) : Prop where
  /-- There is an order of the nodes for each destination. -/
  descends : ∀ b ∈ t.nodeIds,
    t.Descends gone b (fun a => (paths.way a b).cost.toNat) (fun a => (paths.way a b).next)
  /-- A way that has a first step exists and leads to another node. -/
  moves : ∀ a ∈ t.nodeIds, ∀ b ∈ t.nodeIds, (paths.way a b).next.isSome = true →
    a ≠ b ∧ (paths.way a b).exists = true

theorem way_directPaths {t : Topology} {gone : List NodeId} {a b : NodeId} (ha : a ∈ t.nodeIds)
    (hb : b ∈ t.nodeIds) : (t.directPaths gone).way a b = t.directPath gone a b :=
  PathTable.way_eq (way?_directPaths ha hb)

/-- The way over a single link goes straight to the destination. -/
theorem Topology.directPath_of_lt {t : Topology} {gone : List NodeId} {a b : NodeId} (hab : a ≠ b)
    (h : (t.directPath gone a b).exists = true) :
    b ∉ gone ∧ t.cost a b < infiniteCost ∧ t.directPath gone a b = ⟨t.cost a b, some b⟩ := by
  rw [directPath] at h ⊢
  split at h
  · exact absurd h (by decide)
  · next hgone =>
    rw [if_neg hgone, if_neg hab]
    simp only [Bool.or_eq_true, List.contains_iff_mem, not_or] at hgone
    dsimp only at h ⊢
    split at h
    · next hlt => exact ⟨hgone.2, hlt, if_pos hlt⟩
    · exact absurd h (by decide)

theorem points_directPaths (t : Topology) (gone : List NodeId) :
    (t.directPaths gone).Points t gone := by
  constructor
  · intro b hb
    refine ⟨fun a => if a = b then 0 else 1, 2, ?_, ?_⟩
    · intro a
      dsimp only
      split <;> decide
    · intro a ha hab hlt
      dsimp only at hlt ⊢
      rw [way_directPaths ha.1 hb] at hlt ⊢
      obtain ⟨hgone, hcost, heq⟩ := directPath_of_lt hab (Path.exists_iff.2 hlt)
      have hself : t.directPath gone b b = ⟨0, none⟩ := by
        rw [directPath, if_neg (by simpa using hgone), if_pos rfl]
      refine ⟨b, ⟨hb, hgone⟩, isSome_link?_of_cost_lt hab hcost, ?_, ?_, .inr ?_⟩
      · rw [heq]
      · rw [heq, way_directPaths hb hb, hself]
        exact Nat.le_of_eq (Nat.zero_add _)
      · rw [if_pos rfl, if_neg hab]
        exact Nat.one_pos
  · intro a ha b hb hnext
    rw [way_directPaths ha hb] at hnext ⊢
    rw [directPath] at hnext ⊢
    split
    · next hgone =>
      rw [if_pos hgone] at hnext
      exact absurd hnext (by decide)
    · next hgone =>
      rw [if_neg hgone] at hnext
      split
      · next hab =>
        rw [if_pos hab] at hnext
        exact absurd hnext (by decide)
      · next hab =>
        rw [if_neg hab] at hnext
        dsimp only at hnext ⊢
        refine ⟨hab, ?_⟩
        split
        · next hlt => exact decide_eq_true hlt
        · next hge =>
          rw [if_neg hge] at hnext
          exact absurd hnext (by decide)

/-- Allowing a stop keeps an order for each destination.  The nodes whose ways became cheaper take
their first steps towards the stop, and come after all others of the same cost in the order that
they have for the stop. -/
theorem PathTable.Points.descends_improveThrough {t : Topology} {gone via : List NodeId}
    {paths : PathTable} (h : paths.Points t gone) (hshows : paths.Shows t gone via)
    {stop : NodeId} (hstop : stop ∈ t.nodeIds) {b : NodeId} (hb : b ∈ t.nodeIds) :
    t.Descends gone b (fun a => ((OverlayStack.improveThrough paths stop).way a b).cost.toNat)
      (fun a => ((OverlayStack.improveThrough paths stop).way a b).next) := by
  classical
  obtain ⟨rank, bound, hbound, hdesc⟩ := h.descends b hb
  obtain ⟨stopRank, stopBound, hstopBound, hstopDesc⟩ := h.descends stop hstop
  let rank' : NodeId → Nat := fun a =>
    if paths.Shortens stop a b then bound + stopRank a else rank a
  have hcost := fun {a} (ha : a ∈ t.nodeIds) => hshows.toNat_cost_improveThrough hstop ha hb
  refine ⟨rank', bound + stopBound, ?_, ?_⟩
  · intro a
    have := hbound a
    have := hstopBound a
    dsimp only [rank']
    split <;> omega
  · intro a ha hab hlt
    dsimp only at hlt ⊢
    by_cases hs : paths.Shortens stop a b
    -- the first step towards the stop brings the node nearer to it, and the way on is as cheap
    · have hway := hshows.way_of_shortens hstop ha.1 hb hs
      have hne : a ≠ stop := by
        intro heq
        have := hs.2.2
        rw [heq] at this
        omega
      obtain ⟨c, hc, hlink, hnext, hle, hlow⟩ :=
        hstopDesc a ha hne (Path.exists_iff.1 hs.1)
      dsimp only at hle hlow
      have hcosta := hcost ha.1
      have hcostc := hcost hc.1
      have hsum := hs.2.2
      refine ⟨c, hc, hlink, ?_, by omega, ?_⟩
      · rw [hway]
        exact hnext
      · rcases hlow with hlow | hlow
        · exact .inl (by omega)
        · refine .inr ?_
          dsimp only [rank']
          rw [if_pos hs]
          split
          · omega
          · have := hbound c
            omega
    -- the first step is the old one, to a node that may have become cheaper
    · have hway := hshows.way_of_not_shortens hstop ha.1 hb hs
      rw [hway] at hlt
      obtain ⟨c, hc, hlink, hnext, hle, hlow⟩ := hdesc a ha hab hlt
      dsimp only at hle hlow
      have hcostc := hcost hc.1
      rw [hway]
      refine ⟨c, hc, hlink, hnext, by omega, ?_⟩
      by_cases hsc : paths.Shortens stop c b
      · have := hsc.2.2
        exact .inl (by omega)
      · rcases hlow with hlow | hlow
        · exact .inl (by omega)
        · refine .inr ?_
          dsimp only [rank']
          rw [if_neg hs, if_neg hsc]
          exact hlow

/-- Allowing one more stop. -/
theorem PathTable.Points.improveThrough {t : Topology} {gone via : List NodeId}
    {paths : PathTable} (h : paths.Points t gone) (hshows : paths.Shows t gone via)
    {stop : NodeId} (hstop : stop ∈ t.nodeIds) :
    PathTable.Points t gone (OverlayStack.improveThrough paths stop) := by
  constructor
  · intro b hb
    exact h.descends_improveThrough hshows hstop hb
  · intro a ha b hb hnext
    by_cases hs : paths.Shortens stop a b
    · rw [hshows.way_of_shortens hstop ha hb hs]
      have hlt := hs.2.2
      have hinf : (paths.way a b).cost.toNat ≤ infiniteCost.toNat :=
        (hshows.cheapestVia ha hb).2 (.inl rfl)
      constructor
      -- the way from a node to itself costs nothing
      · intro hab
        subst hab
        have halive := hshows.alive_of_exists ha hstop hs.1
        have hzero := (hshows.cheapestVia ha ha).2 (.inr (.stay halive))
        omega
      · apply Path.exists_iff.2
        rw [Path.through, Path.toNat_cost_add hs.1 hs.2.1]
        omega
    · rw [hshows.way_of_not_shortens hstop ha hb hs] at hnext ⊢
      exact h.moves a ha b hb hnext

/-- Allowing a list of stops one after another. -/
theorem PathTable.Points.foldl {t : Topology} {gone : List NodeId} (stops : List NodeId) :
    ∀ {via : List NodeId} {paths : PathTable}, paths.Points t gone → paths.Shows t gone via →
      stops ⊆ t.nodeIds →
      PathTable.Points t gone (stops.foldl OverlayStack.improveThrough paths) := by
  induction stops with
  | nil => intro via paths h _ _; exact h
  | cons k stops ih =>
    intro via paths h hshows hsub
    have hk := hsub List.mem_cons_self
    rw [List.foldl_cons]
    apply ih (h.improveThrough hshows hk) (hshows.improveThrough hk)
    exact List.subset_of_cons_subset hsub

theorem points_shortestPaths (t : Topology) (gone : List NodeId) :
    (t.shortestPaths gone).Points t gone :=
  (points_directPaths t gone).foldl t.nodeIds (shows_directPaths t gone) (List.Subset.refl _)

/-! ### Following next hops -/

/-- The links of a walk that costs less than the infinite cost do so as well. -/
theorem Topology.Walk.isChain {t : Topology} {gone : List NodeId} {a b : NodeId}
    {stops : List NodeId} {w : Nat} (h : t.Walk gone a stops b w) (hw : w < infiniteCost.toNat) :
    List.IsChain (fun x y => (t.link? x y).isSome = true ∧ t.cost x y < infiniteCost)
      (a :: stops) := by
  induction h with
  | stay _ => exact .singleton _
  | step _ hl _ ih =>
    apply List.isChain_cons_cons.2
    refine ⟨⟨hl, UInt32.lt_iff_toNat_lt.2 (by omega)⟩, ih (by omega)⟩

namespace LinkGraph

theorem path_eq_way (g : LinkGraph) (a b : NodeId) : g.path a b = g.paths.way a b := rfl

theorem points_paths (g : LinkGraph) : g.paths.Points g.topology g.removed := by
  rw [g.paths_eq]
  exact points_shortestPaths _ _

theorem nextHop_self {g : LinkGraph} {a : NodeId} (ha : a ∈ g.topology.nodeIds) :
    g.nextHop a a = none := by
  cases hnext : g.nextHop a a with
  | none => rfl
  | some next =>
    have hsome : (g.paths.way a a).next.isSome = true := by
      rw [← path_eq_way]
      exact Option.isSome_of_eq_some hnext
    exact absurd rfl (g.points_paths.moves a ha a ha hsome).1

/-- A node has a next hop to another one just if that is in reach. -/
theorem isSome_nextHop_iff {g : LinkGraph} {a b : NodeId} (ha : a ∈ g.topology.nodeIds)
    (hb : b ∈ g.topology.nodeIds) (hab : a ≠ b) :
    (g.nextHop a b).isSome = true ↔ g.distance a b < infiniteCost := by
  constructor
  · intro hsome
    exact of_decide_eq_true (g.points_paths.moves a ha b hb hsome).2
  · intro hlt
    have hfin := UInt32.lt_iff_toNat_lt.1 hlt
    obtain ⟨stops, hwalk⟩ := (g.cheapest_distance ha hb).exists_walk hfin
    obtain ⟨_, _, _, hdesc⟩ := g.points_paths.descends b hb
    obtain ⟨c, _, _, hnext, _⟩ := hdesc a hwalk.alive_left hab hfin
    exact Option.isSome_of_eq_some hnext

/-- Following next hops takes a shortest path. -/
theorem exists_leads_nextHop {g : LinkGraph} {a b : NodeId} (ha : a ∈ g.topology.nodeIds)
    (hb : b ∈ g.topology.nodeIds) (hlt : g.distance a b < infiniteCost) :
    ∃ stops, Leads (g.nextHop · b) b a stops ∧ stops.length < g.topology.nodeIds.length ∧
      g.topology.Walk g.removed a stops b (g.distance a b).toNat := by
  have hfin := UInt32.lt_iff_toNat_lt.1 hlt
  have hcheap := g.cheapest_distance ha hb
  obtain ⟨_, hwalk⟩ := hcheap.exists_walk hfin
  obtain ⟨stops, w, hleads, hw, hle, hnd⟩ :=
    (g.points_paths.descends b hb).exists_leads hwalk.alive_left hfin
  have hlow := hcheap.le_walk hw
  obtain rfl : w = (g.distance a b).toNat := Nat.le_antisymm hle hlow
  exact ⟨stops, hleads, hw.length_lt_of_nodup hnd, hw⟩

/-- A shortest path after some removals goes over the other nodes. -/
theorem exists_leads_afterRemovals {t : Topology} {removals : List NodeId} {a b : NodeId}
    (ha : a ∈ t.nodeIds) (hb : b ∈ t.nodeIds)
    (hlt : (afterRemovals t removals).distance a b < infiniteCost) :
    ∃ stops, Leads ((afterRemovals t removals).nextHop · b) b a stops ∧
      stops.length < t.nodeIds.length ∧
      t.Walk removals a stops b ((afterRemovals t removals).distance a b).toNat := by
  have ha' : a ∈ (afterRemovals t removals).topology.nodeIds := by
    rwa [topology_afterRemovals]
  have hb' : b ∈ (afterRemovals t removals).topology.nodeIds := by
    rwa [topology_afterRemovals]
  obtain ⟨stops, hleads, hlen, hwalk⟩ := exists_leads_nextHop ha' hb' hlt
  rw [topology_afterRemovals] at hlen hwalk
  refine ⟨stops, hleads, hlen, hwalk.of_gone_subset ?_⟩
  intro x hx hmem
  exact (mem_removed_afterRemovals_iff hx).2 hmem

/-- **Next hops after any removals.**  A node has no next hop to itself, and one to another node
just if that is in reach.  Then following the next hops arrives there: it takes fewer steps than
there are nodes, over nodes that are not gone and links below the infinite cost, and their costs
add up to the distance.  The same next hops come out if the entries of the table are improved one
by one and in place. -/
theorem nextHop_afterRemovals (t : Topology) (removals : List NodeId) :
    ∀ a ∈ t.nodeIds, ∀ b ∈ t.nodeIds,
      (afterRemovals t removals).nextHop a a = none ∧
      (a ≠ b → (((afterRemovals t removals).nextHop a b).isSome = true ↔
        (afterRemovals t removals).distance a b < infiniteCost)) ∧
      (a ≠ b → (afterRemovals t removals).distance a b < infiniteCost →
        ∃ stops, Leads ((afterRemovals t removals).nextHop · b) b a stops ∧
          stops.length ≤ t.nodeIds.length - 1 ∧ (∀ x ∈ a :: stops, x ∉ removals) ∧
          List.IsChain (fun x y => (t.link? x y).isSome = true ∧ t.cost x y < infiniteCost)
            (a :: stops) ∧
          t.Walk removals a stops b ((afterRemovals t removals).distance a b).toNat) ∧
      ((t.improvedInPlace (afterRemovals t removals).removed t.cells).way? a b).map Path.next =
        some ((afterRemovals t removals).nextHop a b) := by
  intro a ha b hb
  have ha' : a ∈ (afterRemovals t removals).topology.nodeIds := by
    rwa [topology_afterRemovals]
  have hb' : b ∈ (afterRemovals t removals).topology.nodeIds := by
    rwa [topology_afterRemovals]
  refine ⟨nextHop_self ha', isSome_nextHop_iff ha' hb', ?_, ?_⟩
  · intro _ hlt
    obtain ⟨stops, hleads, hlen, hwalk⟩ := exists_leads_afterRemovals ha hb hlt
    refine ⟨stops, hleads, Nat.le_sub_one_of_lt hlen, ?_, ?_, hwalk⟩
    · intro x hx
      exact (hwalk.alive_of_mem hx).2
    · exact hwalk.isChain (UInt32.lt_iff_toNat_lt.1 hlt)
  · obtain ⟨p, hp, -⟩ := shows_shortestPaths t (afterRemovals t removals).removed ha hb
    have hagree := agrees_improvedInPlace t (afterRemovals t removals).removed a ha b hb
    rw [hagree, hp, nextHop, path_eq_way, (afterRemovals t removals).paths_eq,
      topology_afterRemovals, PathTable.way_eq hp, Option.map_some]

/-- Without its second node, the chorded line is crossed from node to node the other way around. -/
theorem nextHop_afterRemovals_chordedLine :
    (afterRemovals chordedLine [2]).nextHop 1 1 = none ∧
      (afterRemovals chordedLine [2]).nextHop 1 2 = none ∧
      (∃ stops, Leads ((afterRemovals chordedLine [2]).nextHop · 3) 3 1 stops ∧
        stops.length ≤ 3 ∧ chordedLine.Walk [2] 1 stops 3 6) := by
  have h := nextHop_afterRemovals chordedLine [2]
  obtain ⟨hself, hgone, -⟩ := h 1 (by decide) 2 (by decide)
  obtain ⟨-, -, hreach, -⟩ := h 1 (by decide) 3 (by decide)
  have hlost : ¬ ((afterRemovals chordedLine [2]).nextHop 1 2).isSome = true := by
    rw [hgone (by decide)]
    decide
  obtain ⟨stops, hleads, hlen, -, -, hwalk⟩ := hreach (by decide) (by decide)
  refine ⟨hself, Option.not_isSome_iff_eq_none.1 hlost, stops, hleads, hlen, ?_⟩
  have hdist : (afterRemovals chordedLine [2]).distance 1 3 = 6 := by decide
  rw [hdist] at hwalk
  exact hwalk

end LinkGraph

end OverlayStack
