import OverlayStack.Proofs.Routing.Strangers

/-!
# Updates with arbitrary entries

An update may come from anybody and say anything: it may name nodes that do not exist, name one node
several times, give costs up to the greatest number, and report a failure in between.  What a node
makes of such updates is still a routing table with neighbors for next hops, and a distance table
with costs that are not above the infinite one.

## Main definitions

* `DistanceTable.Capped` — no cost of a distance table is above the infinite one.
* `DistanceVector.Guarded` — what no update from others can break.
* `DistanceVector.considerExactly` — an entry of an update, with costs added as natural numbers.
* `DistanceVector.LostOnly` — a node that has lost one neighbor, and is the same otherwise.

## Main results

* `DistanceVector.Guarded.afterUpdates` — all updates from others keep a node guarded.
* `DistanceVector.handle_eq_exactly` — costs are added as if there were no greatest number.
* `DistanceVector.Guarded.lostOnly` — what the notice of a neighbor's failure does.
* `DistanceVector.guarded_against_updates` — all of this for any updates that are not the node's
  own.
-/

namespace OverlayStack

/-! ### Costs that are not above the infinite one -/

namespace DistanceTable

/-- No cost of a vector is above the infinite one. -/
def CappedRow (row : NodeMap Cost) : Prop :=
  ∀ dest cost, row.find? dest = some cost → cost ≤ infiniteCost

/-- No cost of any vector in the table is above the infinite one. -/
structure Capped (d : DistanceTable) : Prop where
  own : CappedRow d.own
  learned : ∀ source row, d.learned.find? source = some row → CappedRow row

theorem CappedRow.modify {row : NodeMap Cost} (h : CappedRow row) (dest : NodeId) (cost : Cost) :
    CappedRow (row.modify dest fun _ => min cost infiniteCost) := by
  intro x c hc
  rw [NodeMap.find?_modify] at hc
  split at hc
  · obtain ⟨_, -, rfl⟩ := Option.map_eq_some_iff.1 hc
    rw [UInt32.le_iff_toNat_le, UInt32.toNat_min]
    exact Nat.min_le_right _ _
  · exact h x c hc

theorem Capped.set {d : DistanceTable} (h : d.Capped) (source dest : NodeId) (cost : Cost) :
    (d.set source dest cost).Capped := by
  rw [DistanceTable.set]
  split
  · exact ⟨h.own.modify dest cost, h.learned⟩
  · refine ⟨h.own, ?_⟩
    intro x row hrow
    rw [NodeMap.find?_modify] at hrow
    split at hrow
    · obtain ⟨row', hrow', rfl⟩ := Option.map_eq_some_iff.1 hrow
      exact (h.learned x row' hrow').modify dest cost
    · exact h.learned x row hrow

end DistanceTable

namespace DistanceVector

open DistanceTable (Capped)

variable {t : Topology} {me source : NodeId} {s s' : DistanceVector}

theorem capped_lose (hs : s.table.Capped) (neighbor : NodeId) : (s.lose neighbor).table.Capped := by
  apply List.foldlRecOn (s.routes.via neighbor) forget (motive := fun s => s.table.Capped)
  · exact hs.set s.me neighbor infiniteCost
  · intro s hs dest _
    exact hs.set s.me dest infiniteCost

theorem capped_consider (hs : s.table.Capped) (source : NodeId) (link : Cost)
    (entry : NodeId × Cost) : (s.consider source link entry).table.Capped := by
  obtain ⟨dest, cost⟩ := entry
  rcases s.consider_cases source link dest cost with heq | ⟨-, -, heq⟩ | ⟨-, -, -, heq⟩
  · rw [heq]
    exact hs
  · rw [heq]
    exact capped_lose hs source
  · rw [heq]
    exact hs.set _ _ _

theorem capped_learn (hs : s.table.Capped) (source : NodeId) (entries : List (NodeId × Cost)) :
    (s.learn source entries).table.Capped := by
  apply List.foldlRecOn (motive := Capped)
  · exact hs
  · intro d hd entry _
    exact hd.set source entry.1 entry.2

/-- Whatever an update says, no cost that a node writes down is above the infinite one. -/
theorem capped_handle (hs : s.table.Capped) {u : RouteUpdate} (h : s.handle source u = .ok s') :
    s'.table.Capped := by
  rw [handle] at h
  split at h
  · cases h
    apply List.foldlRecOn u.entries _ (motive := fun s : DistanceVector => s.table.Capped)
    · exact capped_learn hs source u.entries
    · intro s hs entry _
      exact capped_consider hs source _ entry
  · cases h

theorem capped_start (hcost : ∀ x ∈ t.neighborIds me, t.cost me x < infiniteCost)
    (hme : me ∈ t.nodeIds) (slots : Nat) : (start t me slots).table.Capped where
  own := by
    intro dest cost hown
    have hle := ownCost_start_le hcost hme slots dest
    rw [ownCost, hown] at hle
    exact hle
  learned := by
    intro x row hrow dest cost hc
    obtain ⟨_, -, rfl⟩ := Option.map_eq_some_iff.1 ((NodeMap.find?_map _ _ _).symm.trans hrow)
    obtain ⟨_, -, rfl⟩ := Option.map_eq_some_iff.1 ((NodeMap.find?_map _ _ _).symm.trans hc)
    exact UInt32.le_refl _

/-! ### Updates from others -/

/-- What no update from others can break: routes and costs are in step, only neighbors are listened
to, and no cost is above the infinite one. -/
structure Guarded (t : Topology) (me : NodeId) (s : DistanceVector) : Prop where
  inStep : s.InStep t me
  admits : s.Admits t me
  capped : s.table.Capped

theorem guarded_start (hcost : ∀ x ∈ t.neighborIds me, t.cost me x < infiniteCost)
    (hme : me ∈ t.nodeIds) (slots : Nat) : (start t me slots).Guarded t me :=
  ⟨inStep_start hcost hme slots, admits_start t me slots, capped_start hcost hme slots⟩

/-- **One update from another node keeps a node guarded.** -/
theorem Guarded.afterUpdate (hs : s.Guarded t me) {update : NodeId × RouteUpdate}
    (hsource : update.1 ≠ me) : (s.afterUpdate update).Guarded t me := by
  obtain ⟨source, u⟩ := update
  by_cases hneighbor : source ∈ t.neighborIds me
  case pos =>
    constructor
    case inStep => exact hs.inStep.afterUpdates [(source, u)] s (by simpa using hneighbor)
    case admits => exact (hs.admits.afterUpdate hs.inStep.fits.own_self (source, u)).1
    case capped => exact capped_handle hs.capped (afterUpdate_eq hs.inStep.fits hneighbor u).1
  case neg =>
    rw [DistanceVector.afterUpdate, hs.admits.handle_eq_error hneighbor hsource u]
    exact hs

/-- **Any updates from other nodes keep a node guarded.** -/
theorem Guarded.afterUpdates {updates : List (NodeId × RouteUpdate)} (hs : s.Guarded t me)
    (hsources : ∀ update ∈ updates, update.1 ≠ me) : (s.afterUpdates updates).Guarded t me := by
  induction updates generalizing s with
  | nil => exact hs
  | cons update updates ih =>
    apply ih (hs.afterUpdate (hsources update List.mem_cons_self))
    intro update' hmem
    exact hsources update' (List.mem_cons_of_mem _ hmem)

/-! ### Adding costs -/

/-- What a node does with an entry if it adds costs as natural numbers, among which there is no
greatest one. -/
def considerExactly (source : NodeId) (link : Cost) (s : DistanceVector) (entry : NodeId × Cost) :
    DistanceVector :=
  let (dest, cost) := entry
  if dest = s.me || !s.table.hasNode dest then s
  else if dest = source && infiniteCost ≤ cost then s.lose source
  else
    let through := cost.toNat + link.toNat
    if through < (s.table.cost s.me dest).toNat then
      { s.setCost dest (UInt32.ofNat through) with routes := s.routes.set dest source }
    else s

/-- A sum that is held at the greatest cost is not less than any cost, so it is not taken. -/
theorem addCost_lt_iff {a b c : Cost} : addCost a b < c ↔ a.toNat + b.toNat < c.toNat := by
  have hc := c.toNat_lt
  rw [UInt32.lt_iff_toNat_lt, toNat_addCost]
  omega

theorem addCost_eq_ofNat {a b c : Cost} (h : addCost a b < c) :
    addCost a b = UInt32.ofNat (a.toNat + b.toNat) := by
  have hlt := addCost_lt_iff.1 h
  have hc := c.toNat_lt
  rw [← UInt32.toNat_inj, toNat_addCost, UInt32.toNat_ofNat']
  omega

theorem consider_eq_exactly (s : DistanceVector) (source : NodeId) (link : Cost)
    (entry : NodeId × Cost) :
    s.consider source link entry = s.considerExactly source link entry := by
  obtain ⟨dest, cost⟩ := entry
  simp only [consider, considerExactly, ← addCost_lt_iff]
  split
  · rfl
  · split
    · rfl
    · split
      · next h => rw [addCost_eq_ofNat h]
      · rfl

/-- **Costs are added as if there were no greatest number**, in every update from a neighbor. -/
theorem handle_eq_exactly (hs : s.Fits t me) (hsource : source ∈ t.neighborIds me)
    (u : RouteUpdate) :
    s.handle source u =
      .ok (u.entries.foldl (considerExactly source (t.cost me source))
        (s.learn source u.entries)) := by
  have hexact : consider source (t.cost me source) = considerExactly source (t.cost me source) := by
    funext s entry
    exact s.consider_eq_exactly source _ entry
  rw [handle, if_pos (hs.hasRow source hsource), hs.linkCost_eq hsource, hexact]

/-! ### The notice of a neighbor's failure -/

/-- The node `s` as `s'` after the loss of a neighbor: the routes through the neighbor are gone, the
neighbor and the destinations of these routes are out of reach, and nothing else is different about
the routes and the node's own vector. -/
structure LostOnly (neighbor : NodeId) (s s' : DistanceVector) : Prop where
  routes_eq : s'.routes.routes = s.routes.routes.filter fun r => r.next != neighbor
  unreachable : ∀ d, d = neighbor ∨ ⟨d, neighbor⟩ ∈ s.routes.routes →
    s'.table.own.find? d = some infiniteCost
  own_eq : ∀ d, d ≠ neighbor → ⟨d, neighbor⟩ ∉ s.routes.routes →
    s'.table.own.find? d = s.table.own.find? d

theorem routes_lose (hs : s.routes.Tidy) (neighbor : NodeId) :
    (s.lose neighbor).routes.routes = s.routes.routes.filter fun r => r.next != neighbor := by
  have hlose := without_lose s neighbor
  have htidy := hlose.tidy hs
  apply eq_of_pairwise_key (·.dest) (RoutingTable.pairwise_routes htidy)
    ((RoutingTable.pairwise_routes hs).filter _)
  intro r
  rw [RoutingTable.mem_routes_iff_next? htidy, List.mem_filter,
    RoutingTable.mem_routes_iff_next? hs, bne_iff_ne]
  constructor
  · exact next?_of_lose hs
  · rintro ⟨hnext, hne⟩
    have hvia : r.dest ∉ s.routes.via neighbor := by
      intro hmem
      rw [RoutingTable.mem_via_iff hs, hnext] at hmem
      exact hne (Option.some.inj hmem)
    rw [hlose.next?_eq, if_neg hvia]
    exact hnext

/-- A node that has lost a neighbor is the same as before in all that has nothing to do with the
neighbor. -/
theorem InStep.lostOnly_lose (hs : s.InStep t me) (hsource : source ∈ t.neighborIds me) :
    LostOnly source s (s.lose source) := by
  have hlose := without_lose s source
  have hvia : ∀ d, d ∈ s.routes.via source ↔ ⟨d, source⟩ ∈ s.routes.routes := by
    intro d
    rw [RoutingTable.mem_via_iff hs.tidy, RoutingTable.mem_routes_iff_next? hs.tidy]
  constructor
  case routes_eq => exact routes_lose hs.tidy source
  case unreachable =>
    intro d hd
    -- both the neighbor and the destinations of routes have a place in the node's own vector
    have hnode : d ∈ t.nodeIds := by
      rcases hd with rfl | hd
      · exact (Topology.mem_neighborIds_iff.1 hsource).1
      · exact (hs.routed d source ((RoutingTable.mem_routes_iff_next? hs.tidy).1 hd)).1
    obtain ⟨cost, hcost⟩ :=
      hasNode_iff.1 (((hs.lose hsource).fits.hasNode_iff d).2 hnode)
    have hown := ownCost_lose s source d
    rw [if_pos (by rw [hvia]; exact hd.symm), ownCost, hcost] at hown
    rw [hcost]
    exact congrArg some hown
  case own_eq =>
    intro d hne hd
    rw [hlose.own_eq d (mt (hvia d).1 hd), own_setCost_of_ne hne]

/-- **What the notice of a neighbor's failure does**, whatever cost it reports from the infinite one
on. -/
theorem Guarded.lostOnly (hs : s.Guarded t me) (hsource : source ∈ t.neighborIds me) {cost : Cost}
    (hcost : infiniteCost ≤ cost) :
    ∃ s', s.handle source ⟨[(source, cost)]⟩ = .ok s' ∧ LostOnly source s s' := by
  have hlearn := hs.inStep.learn hsource [(source, cost)]
  have hne : source ≠ s.me := by
    rw [hs.inStep.fits.me_eq]
    exact ne_of_mem_neighborIds hsource
  obtain ⟨-, hown⟩ := sameFrame_learn s [(source, cost)] hne
  obtain ⟨hroutes, hout, hkept⟩ := hlearn.lostOnly_lose hsource
  -- the vector that is written down first is the neighbor's
  rw [hown] at hkept
  refine ⟨_, (afterUpdate_eq hs.inStep.fits hsource _).1, ?_⟩
  rw [afterUpdate_eq_lose hs.inStep hsource hcost]
  exact ⟨hroutes, hout, hkept⟩

/-! ### Any updates -/

/-- Routes lead from other nodes of the topology to neighbors. -/
theorem InStep.of_mem_routes (hs : s.InStep t me) {r : Route} (hr : r ∈ s.routes.routes) :
    r.dest ∈ t.nodeIds ∧ r.dest ≠ me ∧ r.next ∈ t.neighborIds me :=
  hs.routed _ _ ((RoutingTable.mem_routes_iff_next? hs.tidy).1 hr)

/-- A destination within reach has one route. -/
theorem InStep.filter_routes_of_lt (hs : s.InStep t me) {d : NodeId} (hne : d ≠ me)
    (hlt : s.ownCost d < infiniteCost) :
    ∃ h, (s.routes.routes.filter fun r => r.dest == d) = [⟨d, h⟩] := by
  -- only nodes of the topology have a cost in the node's own vector
  have hnode : s.table.hasNode d = true := by
    rw [hasNode_iff]
    cases hown : s.table.own.find? d with
    | some cost => exact ⟨cost, rfl⟩
    | none =>
      rw [ownCost, hown] at hlt
      exact absurd hlt (UInt32.lt_irrefl _)
  obtain ⟨h, hnext⟩ := hs.reached d ((hs.fits.hasNode_iff d).1 hnode) hne hlt
  refine ⟨h, ?_⟩
  rw [RoutingTable.filter_routes hs.tidy, hnext]
  rfl

/-- **A node whose links cost less than the infinite cost is guarded against updates**, as long as
none comes under its own number.  Whatever updates it has heard, all routes lead from other nodes of
the topology to neighbors; no cost in its table is above the infinite one, and it is at no cost from
itself; each destination within reach has exactly one route; the notice of a neighbor's failure
takes away just what has to do with the neighbor; and costs are added as if there were no greatest
number. -/
theorem guarded_against_updates (t : Topology) (me : NodeId) (slots : Nat)
    (updates : List (NodeId × RouteUpdate)) (hme : me ∈ t.nodeIds)
    (hcost : ∀ x ∈ t.neighborIds me, t.cost me x < infiniteCost)
    (hsources : ∀ update ∈ updates, update.1 ≠ me) :
    let s := (start t me slots).afterUpdates updates
    (∀ r ∈ s.routes.routes,
      r.dest ∈ t.nodeIds ∧ r.dest ≠ me ∧ r.next ∈ t.neighborIds me) ∧
    s.table.Capped ∧ s.table.own.find? me = some 0 ∧
    (∀ d, d ≠ me → s.ownCost d < infiniteCost →
      ∃ h, (s.routes.routes.filter fun r => r.dest == d) = [⟨d, h⟩]) ∧
    (∀ source ∈ t.neighborIds me, ∀ cost, infiniteCost ≤ cost →
      ∃ s', s.handle source ⟨[(source, cost)]⟩ = .ok s' ∧ LostOnly source s s') ∧
    ∀ source ∈ t.neighborIds me, ∀ u,
      s.handle source u =
        .ok (u.entries.foldl (considerExactly source (t.cost me source))
          (s.learn source u.entries)) := by
  intro s
  have hs : s.Guarded t me := (guarded_start hcost hme slots).afterUpdates hsources
  refine ⟨?_, hs.capped, hs.inStep.fits.own_self, ?_, ?_, ?_⟩
  · intro r hr
    exact hs.inStep.of_mem_routes hr
  · intro d hne hlt
    exact hs.inStep.filter_routes_of_lt hne hlt
  · intro source hsource cost hinf
    exact hs.lostOnly hsource hinf
  · intro source hsource u
    exact handle_eq_exactly hs.inStep.fits hsource u

open OverlayStack.Topology (detour)

/-- What the first node of the detour hears: from a stranger, its own failure and a way to the
second node for nothing; then, from the third node, the same way at the greatest cost and for
nothing, a number that no node has, a cost of the first node itself, and the way once more. -/
def hostileUpdates : List (NodeId × RouteUpdate) :=
  [(77, ⟨[(77, 4294967295), (2, 0)]⟩), (3, ⟨[(2, 4294967295), (2, 0), (77, 1), (1, 7), (2, 5)]⟩)]

/-- Then the way to the second node goes through the third, until that is lost. -/
theorem guarded_against_updates_detour :
    ((start detour 1 10).afterUpdates hostileUpdates).routes.next? 2 = some 3 ∧
    (∃ h, (((start detour 1 10).afterUpdates hostileUpdates).routes.routes.filter
      fun r => r.dest == 2) = [⟨2, h⟩]) ∧
    ∃ s', ((start detour 1 10).afterUpdates hostileUpdates).handle 3 ⟨[(3, 4294967295)]⟩ = .ok s' ∧
      LostOnly 3 ((start detour 1 10).afterUpdates hostileUpdates) s' := by
  obtain ⟨-, -, -, hroute, hlost, -⟩ :=
    guarded_against_updates detour 1 10 hostileUpdates (by decide) cost_lt_detour (by decide)
  refine ⟨by decide, hroute 2 (by decide) (by decide), ?_⟩
  exact hlost 3 (by decide) _ (by decide)

end DistanceVector

end OverlayStack
