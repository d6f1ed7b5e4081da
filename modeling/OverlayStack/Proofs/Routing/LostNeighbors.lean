import OverlayStack.Proofs.Routing.Propagation
import OverlayStack.Proofs.Routing.RouteListing

/-!
# Routes after a neighbor is lost

A node that loses a neighbor removes the routes that go through the neighbor and takes their
destinations for out of reach, and the neighbor too.  The route to the neighbor may go through
another one; it is not removed then.  So routes and costs are in step for all destinations except
for lost neighbors: these can be out of reach and still have a route.

## Main definitions

* `DistanceVector.afterUpdates` — a node after route updates, one after another.
* `DistanceVector.InStep` — which destinations have routes.

## Main results

* `DistanceVector.InStep.consider` — an entry of an update keeps routes and costs in step.
* `DistanceVector.routes_afterUpdates` — the routes of a node after any updates from its neighbors.
* `DistanceVector.InStep.keeps_route` — a lost neighbor keeps a route through another one.
-/

namespace OverlayStack

namespace DistanceVector

/-- The node after a route update from a source.  Updates that it cannot apply change nothing. -/
def afterUpdate (s : DistanceVector) (update : NodeId × RouteUpdate) : DistanceVector :=
  match s.handle update.1 update.2 with
  | .ok s => s
  | .error _ => s

/-- The node after some route updates. -/
def afterUpdates (s : DistanceVector) (updates : List (NodeId × RouteUpdate)) : DistanceVector :=
  updates.foldl afterUpdate s

variable {t : Topology} {me source : NodeId} {link : Cost} {s s' : DistanceVector}

/-! ### Losing a neighbor -/

theorem ownCost_setCost_infiniteCost (s : DistanceVector) (dest x : NodeId) :
    (s.setCost dest infiniteCost).ownCost x = if x = dest then infiniteCost else s.ownCost x := by
  rw [ownCost, find?_own_setCost, ownCost]
  by_cases hx : x = dest
  · rw [if_pos hx, if_pos hx]
    cases s.table.own.find? x <;> rfl
  · rw [if_neg hx, if_neg hx]

theorem ownCost_setCost {dest : NodeId} (h : s.table.hasNode dest = true) {cost : Cost}
    (hcost : cost < infiniteCost) (x : NodeId) :
    (s.setCost dest cost).ownCost x = if x = dest then cost else s.ownCost x := by
  obtain ⟨_, hown⟩ := hasNode_iff.1 h
  rw [ownCost, find?_own_setCost, ownCost]
  by_cases hx : x = dest
  · rw [if_pos hx, if_pos hx, hx, hown, Option.map_some, Option.getD_some]
    rw [← UInt32.toNat_inj, UInt32.toNat_min]
    exact Nat.min_eq_left (Nat.le_of_lt (UInt32.lt_iff_toNat_lt.1 hcost))
  · rw [if_neg hx, if_neg hx]

theorem own_setCost_of_ne {dest x : NodeId} (h : x ≠ dest) (cost : Cost) :
    (s.setCost dest cost).table.own.find? x = s.table.own.find? x := by
  rw [find?_own_setCost, if_neg h]

/-- Some destinations are out of reach and have no routes, and nothing else is different. -/
structure Without (dests : List NodeId) (s s' : DistanceVector) : Prop where
  sameFrame : SameFrame s s'
  tidy : s.routes.Tidy → s'.routes.Tidy
  own_eq : ∀ x, x ∉ dests → s'.table.own.find? x = s.table.own.find? x
  ownCost_eq : ∀ x, s'.ownCost x = if x ∈ dests then infiniteCost else s.ownCost x
  next?_eq : ∀ x, s'.routes.next? x = if x ∈ dests then none else s.routes.next? x

theorem without_foldl_forget (dests : List NodeId) :
    ∀ s : DistanceVector, Without dests s (dests.foldl forget s) := by
  induction dests with
  | nil =>
    intro s
    exact ⟨SameFrame.refl s, id, fun _ _ => rfl, by simp, by simp⟩
  | cons dest dests ih =>
    intro s
    have h := ih (s.forget dest)
    refine ⟨(sameFrame_setCost s dest _ _).trans h.sameFrame, ?_, ?_, ?_, ?_⟩
    · intro htidy
      exact h.tidy (htidy.remove dest)
    · intro x hx
      rw [List.mem_cons, not_or] at hx
      rw [List.foldl_cons, h.own_eq x hx.2]
      exact own_setCost_of_ne hx.1 _
    · intro x
      have hforget : (s.forget dest).ownCost x = if x = dest then infiniteCost else s.ownCost x :=
        ownCost_setCost_infiniteCost s dest x
      rw [List.foldl_cons, h.ownCost_eq, hforget]
      by_cases hx : x = dest <;> simp [hx]
    · intro x
      have hforget : (s.forget dest).routes.next? x = if x = dest then none else s.routes.next? x :=
        RoutingTable.next?_remove s.routes dest x
      rw [List.foldl_cons, h.next?_eq, hforget]
      by_cases hx : x = dest <;> simp [hx]

theorem without_lose (s : DistanceVector) (neighbor : NodeId) :
    Without (s.routes.via neighbor) (s.setCost neighbor infiniteCost) (s.lose neighbor) :=
  without_foldl_forget _ _

theorem ownCost_lose (s : DistanceVector) (neighbor x : NodeId) :
    (s.lose neighbor).ownCost x =
      if x ∈ s.routes.via neighbor ∨ x = neighbor then infiniteCost else s.ownCost x := by
  rw [(without_lose s neighbor).ownCost_eq, ownCost_setCost_infiniteCost]
  by_cases hx : x ∈ s.routes.via neighbor <;> simp [hx]

/-- The routes that are left do not go through the lost neighbor. -/
theorem next?_of_lose (h : s.routes.Tidy) {neighbor d k : NodeId}
    (hk : (s.lose neighbor).routes.next? d = some k) :
    s.routes.next? d = some k ∧ k ≠ neighbor := by
  rw [(without_lose s neighbor).next?_eq] at hk
  split at hk
  · cases hk
  · next hd =>
    refine ⟨hk, ?_⟩
    intro heq
    exact hd ((RoutingTable.mem_via_iff h).2 (heq ▸ hk))

/-! ### Entries of an update -/

/-- All that an entry can do: nothing, the loss of the neighbor that it comes from, or a better way
through this neighbor. -/
theorem consider_cases (s : DistanceVector) (source : NodeId) (link : Cost) (dest : NodeId)
    (cost : Cost) :
    s.consider source link (dest, cost) = s ∨
      dest ≠ s.me ∧ dest = source ∧ s.consider source link (dest, cost) = s.lose source ∨
      dest ≠ s.me ∧ s.table.hasNode dest = true ∧ addCost cost link < s.ownCost dest ∧
        s.consider source link (dest, cost) =
          { s.setCost dest (addCost cost link) with routes := s.routes.set dest source } := by
  by_cases hlost : dest ≠ s.me ∧ s.table.hasNode dest = true ∧ dest = source ∧ infiniteCost ≤ cost
  · obtain ⟨hme, hnode, heq, hle⟩ := hlost
    refine .inr (.inl ⟨hme, heq, ?_⟩)
    unfold consider
    simp only
    rw [if_neg (by simp [hme, hnode]), if_pos (by simp [heq, hle])]
  · by_cases hskip : dest = s.me ∨ s.table.hasNode dest = false
    · refine .inl ?_
      unfold consider
      simp only
      rw [if_pos (by simpa using hskip)]
    · rw [not_or, Bool.not_eq_false] at hskip
      have hlt : dest = source → cost < infiniteCost := by
        intro heq
        by_contra hge
        exact hlost ⟨hskip.1, hskip.2, heq, UInt32.not_lt.1 hge⟩
      rw [consider_eq s source link hlt]
      split
      · next h => exact .inr (.inr ⟨h.1, h.2.1, h.2.2, rfl⟩)
      · exact .inl rfl

/-! ### Routes and costs in step -/

/-- A destination that is within reach has a route, and routes lead to neighbors.  A destination
that is out of reach only has a route if it is a neighbor and the route goes through another one. -/
structure InStep (t : Topology) (me : NodeId) (s : DistanceVector) : Prop where
  fits : s.Fits t me
  tidy : s.routes.Tidy
  bounded : ∀ d, s.ownCost d ≤ infiniteCost
  routed : ∀ d h, s.routes.next? d = some h →
    d ∈ t.nodeIds ∧ d ≠ me ∧ h ∈ t.neighborIds me
  reached : ∀ d ∈ t.nodeIds, d ≠ me → s.ownCost d < infiniteCost →
    ∃ h, s.routes.next? d = some h
  lost : ∀ d h, s.routes.next? d = some h → s.ownCost d = infiniteCost →
    d ∈ t.neighborIds me ∧ h ≠ d

theorem ne_of_mem_neighborIds (hsource : source ∈ t.neighborIds me) : source ≠ me := by
  intro heq
  exact t.not_mem_neighborIds_self me (heq ▸ hsource)

/-- Losing a neighbor keeps routes and costs in step. -/
theorem InStep.lose (hs : s.InStep t me) (hsource : source ∈ t.neighborIds me) :
    (s.lose source).InStep t me := by
  have h := without_lose s source
  have hvia : ∀ {x}, x ∈ s.routes.via source ↔ s.routes.next? x = some source :=
    RoutingTable.mem_via_iff hs.tidy
  constructor
  case fits =>
    have hmem : me ∉ s.routes.via source := by
      intro hmem
      exact (hs.routed me source (hvia.1 hmem)).2.1 rfl
    apply hs.fits.of_sameFrame
    · exact (sameFrame_setCost s source infiniteCost s.routes).trans h.sameFrame
    · rw [h.own_eq me hmem, own_setCost_of_ne (Ne.symm (ne_of_mem_neighborIds hsource))]
      exact hs.fits.own_self
  case tidy => exact h.tidy hs.tidy
  case bounded =>
    intro d
    rw [ownCost_lose]
    split
    · exact UInt32.le_refl _
    · exact hs.bounded d
  case routed =>
    intro d k hk
    exact hs.routed d k (next?_of_lose hs.tidy hk).1
  case reached =>
    intro d hd hdme hlt
    rw [ownCost_lose] at hlt
    split at hlt
    · exact absurd hlt (UInt32.lt_irrefl _)
    · next hout =>
      rw [not_or] at hout
      rw [h.next?_eq, if_neg hout.1]
      exact hs.reached d hd hdme hlt
  case lost =>
    intro d k hk hinf
    obtain ⟨hk, hksource⟩ := next?_of_lose hs.tidy hk
    by_cases hd : d = source
    -- the neighbor that is lost keeps a route through another one
    · rw [hd]
      exact ⟨hsource, hksource⟩
    · rw [ownCost_lose] at hinf
      split at hinf
      · next hout =>
        rcases hout with hout | hout
        · rw [hvia.1 hout] at hk
          exact absurd (Option.some.inj hk).symm hksource
        · exact absurd hout hd
      · exact hs.lost d k hk hinf

/-- A better way to a destination keeps routes and costs in step. -/
theorem InStep.improve (hs : s.InStep t me) (hsource : source ∈ t.neighborIds me) {dest : NodeId}
    {cost : Cost} (hme : dest ≠ me) (hdest : dest ∈ t.nodeIds) (hlt : cost < s.ownCost dest) :
    { s.setCost dest cost with routes := s.routes.set dest source : DistanceVector }.InStep
      t me := by
  have hfinite : cost < infiniteCost := UInt32.lt_of_lt_of_le hlt (hs.bounded dest)
  have hcost := ownCost_setCost ((hs.fits.hasNode_iff dest).2 hdest) hfinite
  have hnext : ∀ x, (s.routes.set dest source).next? x =
      if x = dest then some source else s.routes.next? x := RoutingTable.next?_set _ _ _
  constructor
  case fits =>
    apply hs.fits.of_sameFrame (sameFrame_setCost s dest cost _)
    show (s.setCost dest cost).table.own.find? me = some 0
    rw [own_setCost_of_ne (Ne.symm hme)]
    exact hs.fits.own_self
  case tidy => exact hs.tidy.set dest source
  case bounded =>
    intro d
    show (s.setCost dest cost).ownCost d ≤ infiniteCost
    rw [hcost]
    split
    · exact UInt32.le_of_lt hfinite
    · exact hs.bounded d
  case routed =>
    intro d k hk
    rw [hnext] at hk
    split at hk
    · next hd =>
      rw [hd, ← Option.some.inj hk]
      exact ⟨hdest, hme, hsource⟩
    · exact hs.routed d k hk
  case reached =>
    intro d hd hdme hltd
    show ∃ k, (s.routes.set dest source).next? d = some k
    change (s.setCost dest cost).ownCost d < infiniteCost at hltd
    rw [hcost] at hltd
    rw [hnext]
    split
    · exact ⟨source, rfl⟩
    · next hne =>
      rw [if_neg hne] at hltd
      exact hs.reached d hd hdme hltd
  case lost =>
    intro d k hk hinf
    change (s.setCost dest cost).ownCost d = infiniteCost at hinf
    rw [hcost] at hinf
    rw [hnext] at hk
    split at hk
    · next hd =>
      rw [if_pos hd] at hinf
      exact absurd (hinf ▸ hfinite) (UInt32.lt_irrefl _)
    · next hd =>
      rw [if_neg hd] at hinf
      exact hs.lost d k hk hinf

/-- **An entry of an update from a neighbor keeps routes and costs in step.** -/
theorem InStep.consider (hs : s.InStep t me) (hsource : source ∈ t.neighborIds me) (link : Cost)
    (entry : NodeId × Cost) : (s.consider source link entry).InStep t me := by
  obtain ⟨dest, cost⟩ := entry
  rcases s.consider_cases source link dest cost with heq | ⟨-, -, heq⟩ | ⟨hme, hnode, hlt, heq⟩
  · rw [heq]
    exact hs
  · rw [heq]
    exact hs.lose hsource
  · rw [heq]
    rw [hs.fits.me_eq] at hme
    exact hs.improve hsource hme ((hs.fits.hasNode_iff dest).1 hnode) hlt

/-! ### Updates -/

theorem InStep.learn (hs : s.InStep t me) (hsource : source ∈ t.neighborIds me)
    (entries : List (NodeId × Cost)) : (s.learn source entries).InStep t me := by
  have hne : source ≠ s.me := by
    rw [hs.fits.me_eq]
    exact ne_of_mem_neighborIds hsource
  obtain ⟨hframe, hown⟩ := sameFrame_learn s entries hne
  have hcost : ∀ d, (s.learn source entries).ownCost d = s.ownCost d := by
    intro d
    rw [ownCost, hown, ownCost]
  constructor
  case fits =>
    apply hs.fits.of_sameFrame hframe
    rw [hown]
    exact hs.fits.own_self
  case tidy => exact hs.tidy
  case bounded =>
    intro d
    rw [hcost]
    exact hs.bounded d
  case routed => exact hs.routed
  case reached =>
    intro d hd hme hlt
    rw [hcost] at hlt
    exact hs.reached d hd hme hlt
  case lost =>
    intro d h hh hinf
    rw [hcost] at hinf
    exact hs.lost d h hh hinf

theorem InStep.foldl_consider (hsource : source ∈ t.neighborIds me) (link : Cost)
    (entries : List (NodeId × Cost)) :
    ∀ s : DistanceVector, s.InStep t me →
      (entries.foldl (DistanceVector.consider source link) s).InStep t me := by
  induction entries with
  | nil => intro s hs; exact hs
  | cons entry entries ih =>
    intro s hs
    exact ih _ (hs.consider hsource link entry)

/-- No update from a neighbor is refused. -/
theorem afterUpdate_eq (hs : s.Fits t me) (hsource : source ∈ t.neighborIds me) (u : RouteUpdate) :
    s.handle source u = .ok (s.afterUpdate (source, u)) ∧
      s.afterUpdate (source, u) =
        u.entries.foldl (consider source (linkCost s.links source)) (s.learn source u.entries) := by
  rw [afterUpdate, handle, if_pos (hs.hasRow source hsource)]
  exact ⟨rfl, rfl⟩

theorem InStep.afterUpdates (updates : List (NodeId × RouteUpdate)) :
    ∀ s : DistanceVector, s.InStep t me → (∀ update ∈ updates, update.1 ∈ t.neighborIds me) →
      (s.afterUpdates updates).InStep t me := by
  induction updates with
  | nil => intro s hs _; exact hs
  | cons update updates ih =>
    intro s hs hsources
    have hsource := hsources update List.mem_cons_self
    apply ih
    · rw [(afterUpdate_eq hs.fits hsource update.2).2]
      exact InStep.foldl_consider hsource _ _ _ (hs.learn hsource _)
    · intro update' hmem
      exact hsources update' (List.mem_cons_of_mem _ hmem)

theorem ownCost_start_of_mem {x : NodeId} (hx : x ∈ t.nodeIds) (slots : Nat) :
    (start t me slots).ownCost x = t.cost me x := by
  rw [ownCost, Network.find?_own_start hx]
  rfl

theorem next?_start (t : Topology) (me : NodeId) (slots : Nat) (x : NodeId) :
    (start t me slots).routes.next? x = if x ∈ t.neighborIds me then some x else none := by
  unfold start
  rw [RoutingTable.next?_ofNeighbors]
  simp only [Network.mem_keys_linkCosts_iff]

/-- Costs are bounded at the start if those of the links are. -/
theorem ownCost_start_le (hcost : ∀ x ∈ t.neighborIds me, t.cost me x < infiniteCost)
    (hme : me ∈ t.nodeIds) (slots : Nat) (d : NodeId) :
    (start t me slots).ownCost d ≤ infiniteCost := by
  by_cases hd : d ∈ t.nodeIds
  · rw [ownCost_start_of_mem hd]
    by_cases hlink : (t.link? me d).isSome = true
    · exact UInt32.le_of_lt (hcost d (Topology.mem_neighborIds_iff.2 ⟨hd, hlink⟩))
    · rw [Topology.cost, Option.not_isSome_iff_eq_none.1 hlink]
      split
      · decide
      · exact UInt32.le_refl _
  · have hnone := mt ((Network.fits_start slots hme).hasNode_iff d).1 hd
    rw [DistanceTable.hasNode, NodeMap.contains, Option.not_isSome_iff_eq_none] at hnone
    rw [ownCost, hnone]
    exact UInt32.le_refl _

/-- At the start a node has a route to each neighbor, and links below the infinite cost bring all of
them within reach. -/
theorem inStep_start (hcost : ∀ x ∈ t.neighborIds me, t.cost me x < infiniteCost)
    (hme : me ∈ t.nodeIds) (slots : Nat) : (start t me slots).InStep t me := by
  constructor
  case fits => exact Network.fits_start slots hme
  case tidy => exact RoutingTable.tidy_ofNeighbors _ _
  case bounded => exact ownCost_start_le hcost hme slots
  case routed =>
    intro d h hh
    rw [next?_start] at hh
    split at hh
    · next hd =>
      cases hh
      exact ⟨(Topology.mem_neighborIds_iff.1 hd).1, ne_of_mem_neighborIds hd, hd⟩
    · cases hh
  case reached =>
    intro d hd hne hlt
    rw [ownCost_start_of_mem hd] at hlt
    have hlink := Topology.isSome_link?_of_cost_lt (Ne.symm hne) hlt
    refine ⟨d, ?_⟩
    rw [next?_start, if_pos (Topology.mem_neighborIds_iff.2 ⟨hd, hlink⟩)]
  case lost =>
    intro d h hh hinf
    rw [next?_start] at hh
    split at hh
    · next hd =>
      rw [ownCost_start_of_mem (Topology.mem_neighborIds_iff.1 hd).1] at hinf
      have hlt := hcost d hd
      rw [hinf] at hlt
      exact absurd hlt (UInt32.lt_irrefl _)
    · cases hh

/-- **The routes of a node after any updates from its neighbors**, where its links cost less than
the infinite cost.  No update is refused.  There is one route to each node within reach, by a
neighbor, and none to the node itself or to numbers outside the topology.  There is none either to
a node out of reach, unless that is a neighbor and the route goes through another neighbor. -/
theorem routes_afterUpdates (t : Topology) (me : NodeId) (slots : Nat)
    (updates : List (NodeId × RouteUpdate)) (hme : me ∈ t.nodeIds)
    (hcost : ∀ x ∈ t.neighborIds me, t.cost me x < infiniteCost)
    (hsources : ∀ update ∈ updates, update.1 ∈ t.neighborIds me) :
    (∀ source ∈ t.neighborIds me, ∀ u, ∃ s',
      ((start t me slots).afterUpdates updates).handle source u = .ok s') ∧
    (∀ d ∈ t.nodeIds, d ≠ me →
      (((start t me slots).afterUpdates updates).ownCost d < infiniteCost ∧
        ∃ h ∈ t.neighborIds me,
          (((start t me slots).afterUpdates updates).routes.routes.filter fun r => r.dest == d) =
            [⟨d, h⟩]) ∨
      ((start t me slots).afterUpdates updates).ownCost d = infiniteCost ∧
        ((((start t me slots).afterUpdates updates).routes.routes.filter fun r => r.dest == d) =
            [] ∨
          d ∈ t.neighborIds me ∧ ∃ h ∈ t.neighborIds me, h ≠ d ∧
            (((start t me slots).afterUpdates updates).routes.routes.filter fun r => r.dest == d) =
              [⟨d, h⟩])) ∧
    ∀ r ∈ ((start t me slots).afterUpdates updates).routes.routes,
      r.dest ∈ t.nodeIds ∧ r.dest ≠ me := by
  have hs := InStep.afterUpdates updates _ (inStep_start hcost hme slots) hsources
  refine ⟨?_, ?_, ?_⟩
  · intro source hsource u
    exact ⟨_, (afterUpdate_eq hs.fits hsource u).1⟩
  · intro d hd hne
    rw [RoutingTable.filter_routes hs.tidy]
    by_cases hlt : ((start t me slots).afterUpdates updates).ownCost d < infiniteCost
    · obtain ⟨h, hnext⟩ := hs.reached d hd hne hlt
      refine .inl ⟨hlt, h, (hs.routed d h hnext).2.2, ?_⟩
      rw [hnext]
      rfl
    · have hinf := UInt32.le_antisymm (hs.bounded d) (UInt32.not_lt.1 hlt)
      refine .inr ⟨hinf, ?_⟩
      cases hnext : ((start t me slots).afterUpdates updates).routes.next? d with
      | none => exact .inl rfl
      | some h =>
        obtain ⟨hd', hne'⟩ := hs.lost d h hnext hinf
        exact .inr ⟨hd', h, (hs.routed d h hnext).2.2, hne', rfl⟩
  · intro r hr
    obtain ⟨hd, hne, -⟩ := hs.routed _ _ ((RoutingTable.mem_routes_iff_next? hs.tidy).1 hr)
    exact ⟨hd, hne⟩

/-! ### A neighbor behind a neighbor -/

/-- A neighbor that says of itself that it is out of reach is lost. -/
theorem afterUpdate_eq_lose (hs : s.InStep t me) (hsource : source ∈ t.neighborIds me) {cost : Cost}
    (hcost : infiniteCost ≤ cost) :
    s.afterUpdate (source, ⟨[(source, cost)]⟩) = (s.learn source [(source, cost)]).lose source := by
  have hlearn := hs.learn hsource [(source, cost)]
  have hne : source ≠ (s.learn source [(source, cost)]).me := by
    rw [hlearn.fits.me_eq]
    exact ne_of_mem_neighborIds hsource
  have hnode : (s.learn source [(source, cost)]).table.hasNode source = true := by
    rw [hlearn.fits.hasNode_iff]
    exact (Topology.mem_neighborIds_iff.1 hsource).1
  rw [(afterUpdate_eq hs.fits hsource _).2]
  show (s.learn source [(source, cost)]).consider source _ (source, cost) = _
  unfold consider
  simp only
  rw [if_neg (by simp [hne, hnode]), if_pos (by simp [hcost])]

/-- The notice of a neighbor's failure makes the node lose it. -/
theorem afterUpdate_failure (hs : s.InStep t me) (hsource : source ∈ t.neighborIds me) :
    s.afterUpdate (source, RouteUpdate.failure source) =
      (s.learn source [(source, infiniteCost)]).lose source :=
  afterUpdate_eq_lose hs hsource (UInt32.le_refl _)

/-- **A lost neighbor keeps its route if that goes through another one.** -/
theorem InStep.keeps_route (hs : s.InStep t me) (hsource : source ∈ t.neighborIds me) {h : NodeId}
    (hnext : s.routes.next? source = some h) (hne : h ≠ source) :
    (s.afterUpdate (source, RouteUpdate.failure source)).ownCost source = infiniteCost ∧
      (s.afterUpdate (source, RouteUpdate.failure source)).routes.next? source = some h := by
  have hlearn := hs.learn hsource [(source, infiniteCost)]
  have hwithout := without_lose (s.learn source [(source, infiniteCost)]) source
  have hvia : source ∉ (s.learn source [(source, infiniteCost)]).routes.via source := by
    intro hmem
    have hself : s.routes.next? source = some source :=
      (RoutingTable.mem_via_iff hlearn.tidy).1 hmem
    rw [hnext] at hself
    exact hne (Option.some.inj hself)
  rw [afterUpdate_failure hs hsource]
  constructor
  · rw [hwithout.ownCost_eq, if_neg hvia, ownCost_setCost_infiniteCost, if_pos rfl]
  · rw [hwithout.next?_eq, if_neg hvia]
    exact hnext

open OverlayStack.Topology (detour)

theorem cost_lt_detour : ∀ x ∈ detour.neighborIds 1, detour.cost 1 x < infiniteCost := by
  have hall : (detour.neighborIds 1).all (fun x => detour.cost 1 x < infiniteCost) = true := by
    decide
  intro x hx
  exact of_decide_eq_true (List.all_eq_true.1 hall x hx)

/-- What the third node says at the start: it knows a cheap way to the second one. -/
def detourAdvert : NodeId × RouteUpdate := (3, ⟨[(1, 1), (2, 1), (3, 0)]⟩)

/-- The first node takes the cheap way. -/
theorem routes_afterUpdates_detour :
    ((start detour 1 10).afterUpdates [detourAdvert]).ownCost 2 < infiniteCost ∧
      ∃ h ∈ detour.neighborIds 1,
        (((start detour 1 10).afterUpdates [detourAdvert]).routes.routes.filter
          fun r => r.dest == 2) = [⟨2, h⟩] := by
  obtain ⟨-, hroutes, -⟩ :=
    routes_afterUpdates detour 1 10 [detourAdvert] (by decide) cost_lt_detour (by decide)
  rcases hroutes 2 (by decide) (by decide) with hreach | ⟨hinf, -⟩
  · exact hreach
  · exact absurd hinf (by decide)

/-- When the first node then loses the second one, that is out of reach for it, and still has a
route: the way through the third node is no way through the lost neighbor. -/
theorem stale_route :
    (∀ l ∈ detour.links, l.cost < infiniteCost) ∧ 1 ∈ detour.nodeIds ∧
      (∀ update ∈ [detourAdvert, (2, RouteUpdate.failure 2)], update.1 ∈ detour.neighborIds 1) ∧
      ((start detour 1 10).afterUpdates [detourAdvert, (2, RouteUpdate.failure 2)]).ownCost 2 =
        infiniteCost ∧
      ⟨2, 3⟩ ∈ ((start detour 1 10).afterUpdates
        [detourAdvert, (2, RouteUpdate.failure 2)]).routes.routes := by
  have hstart : (start detour 1 10).InStep detour 1 := inStep_start cost_lt_detour (by decide) 10
  have hs : ((start detour 1 10).afterUpdates [detourAdvert]).InStep detour 1 :=
    InStep.afterUpdates _ _ hstart (by decide)
  have hnext : ((start detour 1 10).afterUpdates [detourAdvert]).routes.next? 2 = some 3 := by
    decide
  obtain ⟨hcost, hstale⟩ := hs.keeps_route (by decide) hnext (by decide)
  have hs' : ((start detour 1 10).afterUpdates
      [detourAdvert, (2, RouteUpdate.failure 2)]).InStep detour 1 :=
    InStep.afterUpdates _ _ hstart (by decide)
  refine ⟨by decide, by decide, by decide, hcost, ?_⟩
  exact (RoutingTable.mem_routes_iff_next? hs'.tidy).2 hstale

end DistanceVector

end OverlayStack
