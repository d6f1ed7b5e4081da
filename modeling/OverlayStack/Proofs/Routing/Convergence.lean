import OverlayStack.Proofs.Routing.Gossip

/-!
# Rounds of distance vectors

In a round, all nodes say what their destinations cost them, and then each neighbor of each node
hears of that, in any order.  After `r` rounds, a node costs no more than any walk over `r + 1`
links, and a cheapest walk has fewer links than there are nodes.  Together with what holds in every
run, this says that the costs and the next stops are those of cheapest walks.

## Main definitions

* `Network.hear`, `Network.exchange` — advertisements of an earlier state are delivered.
* `Rounds` — the states of the network after complete rounds.

## Main results

* `Network.round_eq_exchange` — a round of the network is an exchange.
* `Rounds.ownCost_le_walk` — after `r` rounds, all walks over `r + 1` links are accounted for.
* `Rounds.converged` — the costs and the next stops after as many rounds as there are other nodes.
-/

namespace OverlayStack

/-- Who can hear whom: the receiver comes first, then the sender. -/
def Topology.audience (t : Topology) : List (NodeId × NodeId) :=
  t.nodeIds.flatMap fun source => (t.neighborIds source).map fun receiver => (receiver, source)

theorem Topology.mem_audience_iff {t : Topology} {a source : NodeId} :
    (a, source) ∈ t.audience ↔ a ∈ t.nodeIds ∧ source ∈ t.neighborIds a := by
  unfold audience
  simp only [List.mem_flatMap, List.mem_map, Prod.mk.injEq, Topology.mem_neighborIds_iff]
  constructor
  · rintro ⟨_, hs, _, ⟨ha, hl⟩, rfl, rfl⟩
    exact ⟨ha, hs, by rwa [t.link?_comm]⟩
  · rintro ⟨ha, hs, hl⟩
    exact ⟨source, hs, a, ⟨ha, by rwa [t.link?_comm]⟩, rfl, rfl⟩

namespace Network

variable {t : Topology}

/-- The network after the first node has got what the second one advertises in the state `m`. -/
def hear (m n : Network) (d : NodeId × NodeId) : Network :=
  match m.advertisementOf d.2 with
  | some u => (n.update d.1 d.2 u).1
  | none => n

/-- The network after all advertisements were collected and then delivered in some order. -/
def exchange (n : Network) (order : List (NodeId × NodeId)) : Network :=
  order.foldl (hear n) n

theorem topology_update (n : Network) (a source : NodeId) (u : RouteUpdate) :
    (n.update a source u).1.topology = n.topology := by
  unfold update
  split
  · rfl
  · split <;> rfl

theorem topology_foldl_update (source : NodeId) (u : RouteUpdate) (receivers : List NodeId) :
    ∀ n : Network, (receivers.foldl (fun n a => (n.update a source u).1) n).topology =
      n.topology := by
  induction receivers with
  | nil => exact fun _ => rfl
  | cons a receivers ih =>
    intro n
    exact (ih _).trans (topology_update n a source u)

/-- The advertisements of some nodes reach the neighbors of each, one node after another. -/
theorem foldl_advertise {m : Network} (routers : List (NodeId × Router)) :
    ∀ n : Network, n.topology = t →
      (∀ e ∈ routers, m.advertisementOf e.1 = e.2.advertisement?) →
      (routers.filterMap fun e => e.2.advertisement?.map fun u => (e.1, u)).foldl advertise n =
        (routers.flatMap fun e => (t.neighborIds e.1).map fun a => (a, e.1)).foldl (hear m) n := by
  induction routers with
  | nil => exact fun _ _ _ => rfl
  | cons e routers ih =>
    intro n hn hadv
    have hrest := fun e' he' => hadv e' (List.mem_cons_of_mem _ he')
    have he := hadv e List.mem_cons_self
    rw [List.flatMap_cons, List.foldl_append, List.foldl_map, List.filterMap_cons]
    cases hu : e.2.advertisement? with
    | none =>
      have hskip : (fun n a => hear m n (a, e.1)) = fun n _ => n := by
        funext n a
        unfold hear
        rw [he, hu]
      rw [hskip, List.foldl_fixed]
      exact ih n hn hrest
    | some u =>
      have hgot : (fun n a => hear m n (a, e.1)) = fun n a => (n.update a e.1 u).1 := by
        funext n a
        unfold hear
        rw [he, hu]
      have hstep : n.advertise (e.1, u) =
          (t.neighborIds e.1).foldl (fun n a => (n.update a e.1 u).1) n := by
        rw [advertise, hn]
      rw [hgot, Option.map_some, List.foldl_cons, hstep]
      exact ih _ ((topology_foldl_update e.1 u _ n).trans hn) hrest

/-- **A round of the network** is an exchange. -/
theorem round_eq_exchange {n : Network} (h : n.Vectors t) : n.round = n.exchange t.audience := by
  have haudience : t.audience =
      n.routers.entries.flatMap fun e => (t.neighborIds e.1).map fun a => (a, e.1) := by
    rw [Topology.audience, ← h.keys_eq, NodeMap.keys, List.flatMap_map]
  rw [round, advertisements, exchange, haudience]
  refine foldl_advertise _ n h.topology_eq fun e he => ?_
  unfold advertisementOf
  rw [NodeMap.mem_entries_iff.1 (show (e.1, e.2) ∈ n.routers.entries from he)]
  rfl

end Network

open Network

variable {t : Topology} {slots : Nat}

/-- Delivering advertisements of one earlier state goes on with a run, and then each receiver pays
no more than what it has heard and the link together. -/
theorem Gossip.foldl_hear {m : Network} (order : List (NodeId × NodeId)) :
    ∀ {n : Network} {past : List Network}, Gossip t slots n past → m ∈ n :: past →
      order ⊆ t.audience → ∃ past', Gossip t slots (order.foldl (hear m) n) past' ∧
        n :: past ⊆ order.foldl (hear m) n :: past' ∧
        ∀ a source, (a, source) ∈ order → ∀ x ∈ t.nodeIds,
          min ((order.foldl (hear m) n).ownCost a x).toNat infiniteCost.toNat ≤
            (m.ownCost source x).toNat + (t.cost a source).toNat := by
  induction order with
  | nil =>
    intro n past h _ _
    exact ⟨past, h, List.Subset.refl _, fun _ _ hd => absurd hd List.not_mem_nil⟩
  | cons d order ih =>
    obtain ⟨a, source⟩ := d
    intro n past h hm hsub
    obtain ⟨hd, hsub⟩ := List.cons_subset.1 hsub
    obtain ⟨ha, hs⟩ := Topology.mem_audience_iff.1 hd
    have hvec := h.vectors
    obtain ⟨u, hu⟩ : ∃ u, m.advertisementOf source = some u := by
      obtain ⟨s, hs, -⟩ := (hvec m hm).router source (Topology.mem_neighborIds_iff.1 hs).1
      unfold advertisementOf
      rw [hs]
      exact ⟨_, rfl⟩
    have hstep : hear m n (a, source) = (n.update a source u).1 := by
      unfold hear
      rw [hu]
    have hnext := h.deliver hm ha hs hu
    obtain ⟨-, -, hrel⟩ := heard_update (hvec n List.mem_cons_self) (hvec m hm) ha hs hu
    rw [List.foldl_cons, hstep]
    obtain ⟨past', hlast, hkept, hpaid⟩ := ih hnext (List.mem_cons_of_mem _ hm) hsub
    refine ⟨past', hlast, fun k hk => hkept (List.mem_cons_of_mem _ hk), fun b c hbc x hx => ?_⟩
    rcases List.mem_cons.1 hbc with hbc | hbc
    · cases hbc
      by_cases hxa : x = a
      · rw [hxa, (hlast.vectors _ List.mem_cons_self).ownCost_self ha]
        exact Nat.zero_le _
      -- the receiver has paid that little since it heard of it
      · have hle := UInt32.le_iff_toNat_le.1
          (hlast.ownCost_le _ (hkept List.mem_cons_self) a ha x hx)
        have hheard := (hrel x hx hxa).min_ownCost_le
        omega
    · exact hpaid b c hbc x hx

/-! ### Rounds -/

/-- `Rounds t slots r n` says that `n` is a state of the network after `r` rounds, in each of which
the advertisements may be delivered in any order. -/
inductive Rounds (t : Topology) (slots : Nat) : Nat → Network → Prop where
  | start : Rounds t slots 0 (Network.start .distanceVector t slots)
  /-- One more round. -/
  | round {r : Nat} {n : Network} {order : List (NodeId × NodeId)} (before : Rounds t slots r n)
      (ho : order.Perm t.audience) : Rounds t slots (r + 1) (n.exchange order)

namespace Rounds

variable {r : Nat} {n : Network}

/-- Rounds are runs. -/
theorem exists_gossip (h : Rounds t slots r n) : ∃ past, Gossip t slots n past := by
  induction h with
  | start => exact ⟨[], .start⟩
  | round _ ho ih =>
    obtain ⟨past, hpast⟩ := ih
    obtain ⟨past', hpast', -⟩ := hpast.foldl_hear _ List.mem_cons_self ho.subset
    exact ⟨past', hpast'⟩

theorem vectors (h : Rounds t slots r n) : n.Vectors t := by
  obtain ⟨past, hpast⟩ := h.exists_gossip
  exact hpast.vectors n List.mem_cons_self

/-- The rounds of the network itself deliver in ascending order of the senders. -/
theorem iterate_round (t : Topology) (slots r : Nat) :
    Rounds t slots r (Network.round^[r] (Network.start .distanceVector t slots)) := by
  induction r with
  | zero => exact .start
  | succ r ih =>
    rw [Function.iterate_succ_apply', round_eq_exchange ih.vectors]
    exact .round ih (List.Perm.refl _)

/-- **After `r` rounds**, no node pays more for another one than a walk over `r + 1` links costs. -/
theorem ownCost_le_walk (h : Rounds t slots r n) :
    ∀ {a b : NodeId} {stops : List NodeId} {w : Nat}, t.Walk [] a stops b w →
      stops.length ≤ r + 1 → min (n.ownCost a b).toNat infiniteCost.toNat ≤ w := by
  induction h with
  | start =>
    intro a b stops w hw hlen
    cases hw with
    | stay ha =>
      rw [(vectors_start t slots).ownCost_self ha.1]
      exact Nat.zero_le _
    | step ha _ hrest =>
      cases hrest with
      | stay hb =>
        rw [ownCost_start ha.1 hb.1]
        omega
      | step _ _ _ => simp at hlen
  | @round r n order before ho ih =>
    intro a b stops w hw hlen
    obtain ⟨past, hpast⟩ := before.exists_gossip
    obtain ⟨past', hpast', -, hpaid⟩ := hpast.foldl_hear order List.mem_cons_self ho.subset
    rw [exchange]
    cases hw with
    | stay ha =>
      rw [(hpast'.vectors _ List.mem_cons_self).ownCost_self ha.1]
      exact Nat.zero_le _
    | @step _ c _ stops v ha hl hrest =>
      rw [List.length_cons] at hlen
      have hle := ih hrest (by omega)
      have hmem : (a, c) ∈ order := ho.mem_iff.2 (Topology.mem_audience_iff.2
        ⟨ha.1, Topology.mem_neighborIds_iff.2 ⟨hrest.alive_left.1, hl⟩⟩)
      have := hpaid a c hmem b hrest.alive_right.1
      omega

/-- The costs after as many rounds as there are other nodes. -/
theorem min_ownCost_eq (h : Rounds t slots r n) (hr : t.nodeIds.length - 1 ≤ r) {a b : NodeId}
    (ha : a ∈ t.nodeIds) (hb : b ∈ t.nodeIds) :
    min (n.ownCost a b) infiniteCost = (LinkGraph.start t).distance a b := by
  obtain ⟨past, hpast⟩ := h.exists_gossip
  have hge := UInt32.le_iff_toNat_le.1 (hpast.distance_le ha hb)
  have hcheap : t.Cheapest [] a b ((LinkGraph.start t).distance a b).toNat :=
    LinkGraph.cheapest_distance_afterRemovals [] ha hb
  rw [UInt32.toNat_min] at hge
  rw [← UInt32.toNat_inj, UInt32.toNat_min]
  refine Nat.le_antisymm ?_ hge
  rcases hcheap.1 with hinf | ⟨stops, hw⟩
  · omega
  · obtain ⟨stops', w', hw', hle, hlen⟩ := hw.exists_length_lt
    have := h.ownCost_le_walk hw' (by omega)
    omega

/-- **Convergence.**  After as many rounds as there are other nodes, each node pays for each other
one what a cheapest walk costs, and if that is not infinite, its next stop is where a cheapest walk
goes on. -/
theorem converged (h : Rounds t slots r n) (hr : t.nodeIds.length - 1 ≤ r) {a b : NodeId}
    (ha : a ∈ t.nodeIds) (hb : b ∈ t.nodeIds) :
    min (n.ownCost a b) infiniteCost = (LinkGraph.start t).distance a b ∧
      (a ≠ b → (LinkGraph.start t).distance a b < infiniteCost →
        ∃ c ∈ t.neighborIds a, n.nextHop a b = some c ∧
          (t.cost a c).toNat + ((LinkGraph.start t).distance c b).toNat =
            ((LinkGraph.start t).distance a b).toNat) := by
  have hcost := h.min_ownCost_eq hr ha hb
  refine ⟨hcost, fun hne hfin => ?_⟩
  obtain ⟨past, hpast⟩ := h.exists_gossip
  obtain ⟨_, _, _, hdesc⟩ := hpast.descends hb
  have hcost' := congrArg UInt32.toNat hcost
  rw [UInt32.toNat_min] at hcost'
  rw [UInt32.lt_iff_toNat_lt] at hfin
  obtain ⟨c, hc, hnext, hle, -⟩ := hdesc a ha hne (by rw [UInt32.lt_iff_toNat_lt]; omega)
  obtain ⟨hcmem, hl⟩ := Topology.mem_neighborIds_iff.1 hc
  refine ⟨c, hc, hnext, Nat.le_antisymm ?_ ?_⟩
  · have hge := UInt32.le_iff_toNat_le.1 (hpast.distance_le hcmem hb)
    rw [UInt32.toNat_min] at hge
    omega
  · exact Topology.Cheapest.le_link_add (LinkGraph.cheapest_distance_afterRemovals [] ha hb)
      (LinkGraph.cheapest_distance_afterRemovals [] hcmem hb) ⟨ha, List.not_mem_nil⟩ hl

/-- Three rounds are enough for the chorded line. -/
theorem converged_chordedLine :
    ∃ n, n = Network.round^[3] (Network.start .distanceVector .chordedLine 11) ∧
      n.ownCost 1 4 = 3 ∧ (LinkGraph.start .chordedLine).distance 1 4 = 3 ∧
      min (n.ownCost 1 4) infiniteCost = (LinkGraph.start .chordedLine).distance 1 4 ∧
      ∃ c ∈ Topology.chordedLine.neighborIds 1, n.nextHop 1 4 = some c ∧
        (Topology.chordedLine.cost 1 c).toNat +
          ((LinkGraph.start .chordedLine).distance c 4).toNat = 3 := by
  have hends : (1 : NodeId) ∈ Topology.chordedLine.nodeIds ∧
      (4 : NodeId) ∈ Topology.chordedLine.nodeIds := by decide
  have hdist : (LinkGraph.start .chordedLine).distance 1 4 = 3 := by decide
  obtain ⟨hcost, hnext⟩ :=
    (iterate_round .chordedLine 11 3).converged (by decide) hends.1 hends.2
  rw [hdist] at hcost hnext
  exact ⟨_, rfl, by decide +kernel, hdist, hcost.trans hdist.symm, hnext (by decide) (by decide)⟩

end Rounds

end OverlayStack
