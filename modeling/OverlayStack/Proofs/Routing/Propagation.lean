import Mathlib.Data.List.Sort
import OverlayStack.Proofs.Routing.VectorStep
import OverlayStack.Proofs.Routing.Walks
import OverlayStack.Routing.Network

/-!
# How costs travel through a network

The costs and routes of all nodes of a network that routes by distance vectors, as functions of two
nodes, and what the delivery of one advertisement does to them.  The advertisement may be an old
one: it is what its sender would have said in some other state of the network.

## Main definitions

* `Network.ownCost`, `Network.nextHop` — the cost and the next stop of one node for another.
* `Network.advertisementOf` — what a node tells its neighbors.
* `Network.Vectors` — every node of the topology routes by distance vectors, with fitting tables.

## Main results

* `Network.ownCost_start`, `Network.nextHop_start` — what the nodes know at the start.
* `Network.heard_update` — what the delivery of an advertisement does.
-/

namespace OverlayStack

namespace Network

/-- What a destination costs a node, by the node's own vector. -/
def ownCost (n : Network) (node dest : NodeId) : Cost :=
  match n.routers.find? node with
  | some (.distanceVector s) => s.ownCost dest
  | _ => infiniteCost

/-- Where a node sends packets for a destination. -/
def nextHop (n : Network) (node dest : NodeId) : Option NodeId :=
  (n.routers.find? node).bind fun r => r.nextHop dest

/-- What a node tells its neighbors. -/
def advertisementOf (n : Network) (node : NodeId) : Option RouteUpdate :=
  (n.routers.find? node).bind fun r => r.advertisement?

/-- Every node of the topology routes by distance vectors, and its tables fit. -/
structure Vectors (t : Topology) (n : Network) : Prop where
  topology_eq : n.topology = t
  keys_eq : n.routers.keys = t.nodeIds
  router : ∀ a ∈ t.nodeIds, ∃ s, n.routers.find? a = some (.distanceVector s) ∧ s.Fits t a

variable {t : Topology} {n m : Network}

theorem ownCost_eq {a : NodeId} {s : DistanceVector}
    (h : n.routers.find? a = some (.distanceVector s)) (x : NodeId) :
    n.ownCost a x = s.ownCost x := by
  unfold ownCost
  rw [h]

theorem nextHop_eq {a : NodeId} {s : DistanceVector}
    (h : n.routers.find? a = some (.distanceVector s)) (x : NodeId) :
    n.nextHop a x = s.routes.next? x := by
  unfold nextHop
  rw [h]
  rfl

theorem Vectors.ownCost_self (h : n.Vectors t) {a : NodeId} (ha : a ∈ t.nodeIds) :
    n.ownCost a a = 0 := by
  obtain ⟨s, hs, hfits⟩ := h.router a ha
  rw [ownCost_eq hs, DistanceVector.ownCost, hfits.own_self]
  rfl

/-! ### The start -/

theorem find?_routers_start {slots : Nat} {a : NodeId} (ha : a ∈ t.nodeIds) :
    (start .distanceVector t slots).routers.find? a =
      some (.distanceVector (DistanceVector.start t a slots)) := by
  obtain ⟨_, hhost⟩ := Topology.mem_nodeIds_iff.1 ha
  unfold start
  simp [hhost, Router.start]

theorem mem_keys_linkCosts_iff {a x : NodeId} :
    x ∈ (t.linkCosts a).keys ↔ x ∈ t.neighborIds a := by
  rw [Topology.mem_neighborIds_iff, Topology.nodeIds, NodeMap.mem_keys_iff, NodeMap.mem_keys_iff]
  unfold Topology.linkCosts NodeMap.contains
  simp only [NodeMap.find?_map, NodeMap.find?_filter, Option.isSome_map]
  cases t.hosts.find? x <;> simp [Option.filter]

theorem linkCost_linkCosts {a x : NodeId} (hx : x ∈ t.nodeIds) (hne : x ≠ a) :
    linkCost (t.linkCosts a) x = t.cost a x := by
  by_cases hl : (t.link? a x).isSome = true
  · unfold linkCost
    rw [DistanceVector.find?_linkCosts (Topology.mem_neighborIds_iff.2 ⟨hx, hl⟩)]
    rfl
  · have hnone : (t.linkCosts a).find? x = none := by
      have := mt mem_keys_linkCosts_iff.1 (mt Topology.mem_neighborIds_iff.1 fun h => hl h.2)
      rw [NodeMap.mem_keys_iff, NodeMap.contains] at this
      simpa using this
    unfold linkCost Topology.cost
    rw [hnone, if_neg (Ne.symm hne), Option.not_isSome_iff_eq_none.1 hl]
    rfl

theorem find?_own_start {slots : Nat} {a x : NodeId} (hx : x ∈ t.nodeIds) :
    (DistanceVector.start t a slots).table.own.find? x = some (t.cost a x) := by
  obtain ⟨_, hhost⟩ := Topology.mem_nodeIds_iff.1 hx
  unfold DistanceVector.start DistanceTable.start
  simp only [NodeMap.find?_map, hhost, Option.map_some]
  by_cases hxa : x = a
  · simp [hxa]
  · rw [if_neg hxa, linkCost_linkCosts hx hxa]

theorem fits_start (slots : Nat) {a : NodeId} (ha : a ∈ t.nodeIds) :
    (DistanceVector.start t a slots).Fits t a where
  me_eq := rfl
  links_eq := rfl
  hasNode_iff := fun x => by
    rw [Topology.nodeIds, NodeMap.mem_keys_iff]
    unfold DistanceVector.start DistanceTable.start DistanceTable.hasNode NodeMap.contains
    simp
  hasRow := fun x hx => by
    have hne : x ≠ a := fun h => t.not_mem_neighborIds_self a (h ▸ hx)
    unfold DistanceVector.start DistanceTable.start DistanceTable.hasRow DistanceTable.row?
    simp [hne, DistanceVector.find?_linkCosts hx]
  own_self := by rw [find?_own_start ha, Topology.cost_self]

theorem vectors_start (t : Topology) (slots : Nat) : (start .distanceVector t slots).Vectors t where
  topology_eq := rfl
  keys_eq := NodeMap.keys_map _ _
  router := fun _ ha => ⟨_, find?_routers_start ha, fits_start slots ha⟩

/-- At the start, a node knows the costs of its links. -/
theorem ownCost_start {slots : Nat} {a x : NodeId} (ha : a ∈ t.nodeIds) (hx : x ∈ t.nodeIds) :
    (start .distanceVector t slots).ownCost a x = t.cost a x := by
  rw [ownCost_eq (find?_routers_start ha), DistanceVector.ownCost, find?_own_start hx]
  rfl

/-- At the start, a node reaches its neighbors directly. -/
theorem nextHop_start {slots : Nat} {a x : NodeId} (ha : a ∈ t.nodeIds)
    (hx : x ∈ t.neighborIds a) : (start .distanceVector t slots).nextHop a x = some x := by
  rw [nextHop_eq (find?_routers_start ha)]
  unfold DistanceVector.start
  rw [RoutingTable.next?_ofNeighbors, if_pos (mem_keys_linkCosts_iff.2 hx)]

/-! ### Delivery of an advertisement -/

/-- What the delivery of an advertisement does to the receiver for one destination, where `said` is
the cost that the sender has advertised. -/
inductive Relaxed (n n' : Network) (receiver source dest : NodeId) (said link : Cost) : Prop where
  /-- The way through the sender is no better. -/
  | kept (hcost : n'.ownCost receiver dest = n.ownCost receiver dest)
      (hnext : n'.nextHop receiver dest = n.nextHop receiver dest)
      (hge : n.ownCost receiver dest ≤ addCost said link)
  /-- The way through the sender is better and is taken. -/
  | improved (hlt : addCost said link < n.ownCost receiver dest)
      (hcost : n'.ownCost receiver dest = min (addCost said link) infiniteCost)
      (hnext : n'.nextHop receiver dest = some source)

/-- What a node hears of a destination, seen from outside. -/
theorem Relaxed.of_heard {n' : Network} {a source dest : NodeId} {said link : Cost}
    {s s' : DistanceVector} (hs : n.routers.find? a = some (.distanceVector s))
    (hs' : n'.routers.find? a = some (.distanceVector s'))
    (h : DistanceVector.Heard source link (some said) s s' dest) (hne : dest ≠ s.me)
    (hnode : s.table.hasNode dest = true) : Relaxed n n' a source dest said link := by
  cases h with
  | kept hown hnext hge =>
    refine .kept ?_ ?_ ?_
    · rw [ownCost_eq hs', ownCost_eq hs, DistanceVector.ownCost, hown]
      rfl
    · rw [nextHop_eq hs', nextHop_eq hs, hnext]
    · rw [ownCost_eq hs]
      exact hge said rfl hne hnode
  | improved c hc _ hlt hown hnext =>
    obtain rfl : said = c := Option.some.inj hc
    refine .improved ?_ ?_ ?_
    · rwa [ownCost_eq hs]
    · rw [ownCost_eq hs', DistanceVector.ownCost, hown]
      rfl
    · rw [nextHop_eq hs', hnext]

/-- Writing a value over another one does not change which nodes have one. -/
theorem keys_insert_of_mem {α : Type} {m : NodeMap α} {k : NodeId} (x : α) (h : k ∈ m.keys) :
    (m.insert k x).keys = m.keys := by
  refine (m.insert k x).pairwise_keys.eq_of_mem_iff m.pairwise_keys fun j => ?_
  rw [NodeMap.mem_keys_iff] at h
  rw [NodeMap.mem_keys_iff, NodeMap.mem_keys_iff, NodeMap.contains, NodeMap.find?_insert]
  by_cases hj : j = k
  · rw [if_pos hj, hj]
    exact iff_of_true rfl h
  · rw [if_neg hj, NodeMap.contains]

/-- A node of the topology gets other tables, which fit as well. -/
theorem Vectors.insert (h : n.Vectors t) {a : NodeId} (ha : a ∈ t.nodeIds) {s : DistanceVector}
    (hs : s.Fits t a) :
    Vectors t { n with routers := n.routers.insert a (.distanceVector s) } where
  topology_eq := h.topology_eq
  keys_eq := (keys_insert_of_mem _ (h.keys_eq ▸ ha)).trans h.keys_eq
  router := fun b hb => by
    dsimp only
    by_cases hba : b = a
    · subst hba
      exact ⟨s, by rw [NodeMap.find?_insert, if_pos rfl], hs⟩
    · rw [NodeMap.find?_insert, if_neg hba]
      exact h.router b hb

theorem update_of_handle {a source : NodeId} {u : RouteUpdate} {s s' : DistanceVector}
    (hs : n.routers.find? a = some (.distanceVector s)) (h : s.handle source u = .ok s') :
    (n.update a source u).1 =
      { n with routers := n.routers.insert a (.distanceVector s') } := by
  unfold update Router.handle
  rw [hs]
  simp [h, Except.map]

/-- **The delivery of an advertisement** changes the receiver only, and for each other destination
either takes the way through the sender, if that is better, or keeps what is there. -/
theorem heard_update (hn : n.Vectors t) (hm : m.Vectors t) {a source : NodeId}
    (ha : a ∈ t.nodeIds) (hs : source ∈ t.neighborIds a) {u : RouteUpdate}
    (hu : m.advertisementOf source = some u) :
    (n.update a source u).1.Vectors t ∧
      (∀ b, b ≠ a → ∀ x, (n.update a source u).1.ownCost b x = n.ownCost b x ∧
        (n.update a source u).1.nextHop b x = n.nextHop b x) ∧
      ∀ x ∈ t.nodeIds, x ≠ a →
        Relaxed n (n.update a source u).1 a source x (m.ownCost source x) (t.cost a source) := by
  have hsource := (Topology.mem_neighborIds_iff.1 hs).1
  obtain ⟨s, hfind, hfits⟩ := hn.router a ha
  obtain ⟨p, hp, hpfits⟩ := hm.router source hsource
  obtain rfl : ⟨p.table.own.entries⟩ = u := by
    unfold advertisementOf at hu
    rw [hp] at hu
    exact Option.some.inj hu
  obtain ⟨s', hok, hfits', hheard⟩ := DistanceVector.handle_eq_ok hfits hs p.table.own
    fun c hc => by
      rw [hpfits.own_self] at hc
      obtain rfl : (0 : Cost) = c := Option.some.inj hc
      decide
  rw [update_of_handle hfind hok]
  refine ⟨hn.insert ha hfits', fun b hb x => ?_, fun x hx hxa => ?_⟩
  · unfold ownCost nextHop
    dsimp only
    rw [NodeMap.find?_insert, if_neg hb]
    exact ⟨rfl, rfl⟩
  -- the sender has a cost for every node of the topology
  · obtain ⟨c, hc⟩ := DistanceVector.hasNode_iff.1 ((hpfits.hasNode_iff x).2 hx)
    have hsaid : m.ownCost source x = c := by
      rw [ownCost_eq hp, DistanceVector.ownCost, hc]
      rfl
    rw [hsaid]
    have hhear := hheard x
    rw [hc] at hhear
    exact .of_heard hfind (by simp) hhear (by rwa [hfits.me_eq]) ((hfits.hasNode_iff x).2 hx)

end Network

end OverlayStack
