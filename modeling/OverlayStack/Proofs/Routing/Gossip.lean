import OverlayStack.Proofs.Routing.Descent
import OverlayStack.Proofs.Routing.Distances
import OverlayStack.Proofs.Routing.Propagation

/-!
# Distance vectors without failures

A run in which no node fails and the advertisements of neighbors are delivered in any way: late, out
of order, several times or never.  Whatever a node believes, packets that follow the next stops of
the nodes arrive, visit no node twice, and pay no more than the node believes.

The argument is an order of the nodes for each destination.  A node takes a way through a neighbor
at a cost that the neighbor has had at some time, and costs never grow, so that the neighbor costs
no more than the node.  Over a link without cost it can cost the same; then the node has changed its
cost after the neighbor, which is what the rank of a node keeps in mind.

## Main definitions

* `Gossip` — the states of such a run, with the earlier ones.
* `Network.Descends` — the order of the nodes for a destination.
* `Network.Forwards` — following next stops from node to node.

## Main results

* `Gossip.ownCost_le` — costs never grow.
* `Gossip.descends` — the order exists in every state.
* `Gossip.forwarding_safe` — costs are never too low, and forwarding is free of loops.
-/

namespace OverlayStack

open Network

/-- `Gossip t slots n past` says that `n` is a state of the network in a run without failures, and
`past` are its earlier states, the latest one first. -/
inductive Gossip (t : Topology) (slots : Nat) : Network → List Network → Prop where
  | start : Gossip t slots (Network.start .distanceVector t slots) []
  /-- A node gets what one of its neighbors advertises, or has advertised in an earlier state. -/
  | deliver {n m : Network} {past : List Network} {a source : NodeId} {u : RouteUpdate}
      (run : Gossip t slots n past) (hm : m ∈ n :: past) (ha : a ∈ t.nodeIds)
      (hs : source ∈ t.neighborIds a) (hu : m.advertisementOf source = some u) :
      Gossip t slots (n.update a source u).1 (n :: past)

namespace Network

/-- Each node that has a way to the destination has a next stop which is closer: it pays less by the
cost of the link at least, and if it pays the same, its rank is lower. -/
def Descends (t : Topology) (n : Network) (dest : NodeId) : Prop :=
  ∃ (rank : NodeId → Nat) (bound : Nat), (∀ a, rank a < bound) ∧
    ∀ a ∈ t.nodeIds, a ≠ dest → n.ownCost a dest < infiniteCost →
      ∃ b ∈ t.neighborIds a, n.nextHop a dest = some b ∧
        (n.ownCost b dest).toNat + (t.cost a b).toNat ≤ (n.ownCost a dest).toNat ∧
        (n.ownCost b dest < n.ownCost a dest ∨ rank b < rank a)

/-- `Forwards n dest a stops` says that packets for `dest` that start at `a` and follow the next
stops of the nodes arrive after entering the nodes `stops`. -/
inductive Forwards (n : Network) (dest : NodeId) : NodeId → List NodeId → Prop where
  /-- The packet has arrived. -/
  | arrived : Forwards n dest dest []
  /-- The packet goes on to the next stop. -/
  | hop {a b : NodeId} {stops : List NodeId} (ha : a ≠ dest) (hb : n.nextHop a dest = some b)
      (rest : Forwards n dest b stops) : Forwards n dest a (b :: stops)

variable {t : Topology} {n n' : Network}

theorem descends_start (t : Topology) (slots : Nat) {dest : NodeId} (hd : dest ∈ t.nodeIds) :
    (start .distanceVector t slots).Descends t dest := by
  refine ⟨fun a => if a = dest then 0 else 1, 2, fun a => ?_, ?_⟩
  · show (if a = dest then 0 else 1) < 2
    split <;> decide
  · intro a ha hne hlt
    rw [ownCost_start ha hd] at hlt ⊢
    have hlink := Topology.isSome_link?_of_cost_lt hne hlt
    have hmem := Topology.mem_neighborIds_iff.2 ⟨hd, hlink⟩
    refine ⟨dest, hmem, nextHop_start ha hmem, ?_, .inr ?_⟩
    · rw [(vectors_start t slots).ownCost_self hd]
      simp
    · simp [hne]

/-- Costs never grow. -/
theorem Relaxed.ownCost_le {a source dest : NodeId} {said link : Cost}
    (h : Relaxed n n' a source dest said link) : n'.ownCost a dest ≤ n.ownCost a dest := by
  rcases h with ⟨hcost, -, -⟩ | ⟨hlt, hcost, -⟩
  · rw [hcost]
    exact UInt32.le_refl _
  · rw [UInt32.lt_iff_toNat_lt] at hlt
    rw [UInt32.le_iff_toNat_le, hcost, UInt32.toNat_min]
    omega

/-- What the receiver pays afterwards is no more than what was said and the link together. -/
theorem Relaxed.min_ownCost_le {a source dest : NodeId} {said link : Cost}
    (h : Relaxed n n' a source dest said link) :
    min (n'.ownCost a dest).toNat infiniteCost.toNat ≤ said.toNat + link.toNat := by
  have hadd := toNat_addCost said link
  rcases h with ⟨hcost, -, hge⟩ | ⟨-, hcost, -⟩
  · rw [UInt32.le_iff_toNat_le] at hge
    rw [hcost]
    omega
  · rw [hcost, UInt32.toNat_min]
    omega

/-- A cost below the infinite one that was improved is the sum of what was said and the link. -/
theorem toNat_min_addCost {said link : Cost}
    (h : min (addCost said link) infiniteCost < infiniteCost) :
    (min (addCost said link) infiniteCost).toNat = said.toNat + link.toNat := by
  rw [UInt32.lt_iff_toNat_lt] at h
  rw [UInt32.toNat_min, toNat_addCost, infiniteCost_toNat] at h ⊢
  omega

theorem Descends.congr {dest : NodeId} (h : n.Descends t dest)
    (hcost : ∀ b ∈ t.nodeIds, n'.ownCost b dest = n.ownCost b dest)
    (hnext : ∀ b, b ≠ dest → n'.nextHop b dest = n.nextHop b dest) : n'.Descends t dest := by
  obtain ⟨rank, bound, hbound, hdesc⟩ := h
  refine ⟨rank, bound, hbound, fun b hb hne hfin => ?_⟩
  rw [hcost b hb] at hfin
  obtain ⟨c, hc, hnc, hle, hlow⟩ := hdesc b hb hne hfin
  have hcmem := (Topology.mem_neighborIds_iff.1 hc).1
  refine ⟨c, hc, (hnext b hne).trans hnc, ?_, ?_⟩
  · rwa [hcost b hb, hcost c hcmem]
  · rwa [hcost b hb, hcost c hcmem]

/-- A node that takes a new way gets the highest rank, which leaves the others in order. -/
theorem Descends.improve {a source dest : NodeId} (h : n.Descends t dest)
    (hs : source ∈ t.neighborIds a)
    (hother : ∀ b, b ≠ a → ∀ x, n'.ownCost b x = n.ownCost b x ∧ n'.nextHop b x = n.nextHop b x)
    (hdrop : n'.ownCost a dest < n.ownCost a dest) (hnext : n'.nextHop a dest = some source)
    (hpays : n'.ownCost a dest < infiniteCost →
      (n.ownCost source dest).toNat + (t.cost a source).toNat ≤ (n'.ownCost a dest).toNat) :
    n'.Descends t dest := by
  obtain ⟨rank, bound, hbound, hdesc⟩ := h
  have hsource : source ≠ a := by
    rintro rfl
    exact t.not_mem_neighborIds_self _ hs
  refine ⟨fun b => if b = a then bound else rank b, bound + 1, fun b => ?_, ?_⟩
  · have := hbound b
    show (if b = a then bound else rank b) < bound + 1
    split <;> omega
  · intro b hb hne hfin
    by_cases hba : b = a
    · subst hba
      refine ⟨source, hs, hnext, ?_, .inr ?_⟩
      · rw [(hother source hsource dest).1]
        exact hpays hfin
      · show (if source = b then bound else rank source) < if b = b then bound else rank b
        rw [if_neg hsource, if_pos rfl]
        exact hbound source
    · rw [(hother b hba dest).1] at hfin
      obtain ⟨c, hc, hnc, hle, hlow⟩ := hdesc b hb hne hfin
      refine ⟨c, hc, (hother b hba dest).2.trans hnc, ?_⟩
      rw [(hother b hba dest).1]
      by_cases hca : c = a
      · subst hca
        -- the next stop has become cheaper
        have hdrop' := UInt32.lt_iff_toNat_lt.1 hdrop
        refine ⟨by omega, .inl ?_⟩
        rw [UInt32.lt_iff_toNat_lt]
        omega
      · show _ ∧ (_ ∨ (if c = a then bound else rank c) < if b = a then bound else rank b)
        rw [(hother c hca dest).1, if_neg hca, if_neg hba]
        exact ⟨hle, hlow⟩

/-- The order of the nodes survives a delivery, if the sender does not pay more than it has said. -/
theorem Descends.update {a source dest : NodeId} {said : Cost}
    (h : n.Descends t dest) (hs : source ∈ t.neighborIds a)
    (hother : ∀ b, b ≠ a → ∀ x, n'.ownCost b x = n.ownCost b x ∧ n'.nextHop b x = n.nextHop b x)
    (hsaid : n.ownCost source dest ≤ said)
    (hrel : Relaxed n n' a source dest said (t.cost a source)) : n'.Descends t dest := by
  cases hrel with
  | kept hcost hnext _ =>
    refine h.congr (fun b _ => ?_) (fun b _ => ?_)
    · by_cases hb : b = a
      · exact hb ▸ hcost
      · exact (hother b hb dest).1
    · by_cases hb : b = a
      · exact hb ▸ hnext
      · exact (hother b hb dest).2
  | improved hlt hcost hnext =>
    refine h.improve hs hother ?_ hnext fun hfin => ?_
    · rw [UInt32.lt_iff_toNat_lt] at hlt ⊢
      rw [hcost, UInt32.toNat_min]
      omega
    -- below the infinite cost, nothing was cut off from the sum
    · rw [hcost] at hfin
      rw [hcost, toNat_min_addCost hfin]
      have := UInt32.le_iff_toNat_le.1 hsaid
      omega

/-- Packets follow the next stops. -/
theorem forwards_of_leads {dest a : NodeId} {stops : List NodeId}
    (h : Leads (n.nextHop · dest) dest a stops) : n.Forwards dest a stops := by
  induction h with
  | arrived => exact .arrived
  | hop ha hb _ ih => exact .hop ha hb ih

/-- Packets arrive where the nodes are in order. -/
theorem Descends.exists_forwards {dest : NodeId} (h : n.Descends t dest) {a : NodeId}
    (ha : a ∈ t.nodeIds) (hfin : n.ownCost a dest < infiniteCost) :
    ∃ stops w, n.Forwards dest a stops ∧ t.Walk [] a stops dest w ∧
      w ≤ (n.ownCost a dest).toNat ∧ (a :: stops).Nodup := by
  have hdesc : t.Descends [] dest (fun b => (n.ownCost b dest).toNat) (n.nextHop · dest) := by
    obtain ⟨rank, bound, hbound, hdesc⟩ := h
    refine ⟨rank, bound, hbound, ?_⟩
    intro b hb hne hlt
    obtain ⟨c, hc, hnext, hle, hlow⟩ := hdesc b hb.1 hne (UInt32.lt_iff_toNat_lt.2 hlt)
    obtain ⟨hcmem, hlink⟩ := Topology.mem_neighborIds_iff.1 hc
    exact ⟨c, ⟨hcmem, List.not_mem_nil⟩, hlink, hnext, hle,
      hlow.imp_left UInt32.lt_iff_toNat_lt.1⟩
  obtain ⟨stops, w, hl, hw, hle, hnd⟩ :=
    hdesc.exists_leads ⟨ha, List.not_mem_nil⟩ (UInt32.lt_iff_toNat_lt.1 hfin)
  exact ⟨stops, w, forwards_of_leads hl, hw, hle, hnd⟩

/-! ### One delivery -/

section Delivery

variable {m : Network} {a source : NodeId} {u : RouteUpdate}

theorem ownCost_update_le (hn : n.Vectors t) (hm : m.Vectors t) (ha : a ∈ t.nodeIds)
    (hs : source ∈ t.neighborIds a) (hu : m.advertisementOf source = some u) {b x : NodeId}
    (hb : b ∈ t.nodeIds) (hx : x ∈ t.nodeIds) :
    (n.update a source u).1.ownCost b x ≤ n.ownCost b x := by
  obtain ⟨hn', hother, hrel⟩ := heard_update hn hm ha hs hu
  by_cases hba : b = a
  · subst hba
    by_cases hxb : x = b
    · subst hxb
      rw [hn'.ownCost_self hx, hn.ownCost_self hx]
      exact UInt32.le_refl _
    · exact (hrel x hx hxb).ownCost_le
  · rw [(hother b hba x).1]
    exact UInt32.le_refl _

theorem Descends.deliver {dest : NodeId} (h : n.Descends t dest) (hn : n.Vectors t)
    (hm : m.Vectors t) (ha : a ∈ t.nodeIds) (hs : source ∈ t.neighborIds a)
    (hu : m.advertisementOf source = some u) (hd : dest ∈ t.nodeIds)
    (hsaid : n.ownCost source dest ≤ m.ownCost source dest) :
    (n.update a source u).1.Descends t dest := by
  obtain ⟨hn', hother, hrel⟩ := heard_update hn hm ha hs hu
  by_cases hda : dest = a
  -- what the receiver pays for itself does not matter
  · refine h.congr (fun b _ => ?_) (fun b hb => (hother b (hda ▸ hb) dest).2)
    by_cases hb : b = dest
    · rw [hb, hn'.ownCost_self hd, hn.ownCost_self hd]
    · exact (hother b (hda ▸ hb) dest).1
  · exact h.update hs hother hsaid (hrel dest hd hda)

end Delivery

end Network

/-! ### Runs -/

namespace Gossip

variable {t : Topology} {slots : Nat} {n : Network} {past : List Network}

/-- In every state of a run, all nodes route by distance vectors. -/
theorem vectors (h : Gossip t slots n past) : ∀ m ∈ n :: past, m.Vectors t := by
  induction h with
  | start =>
    intro m hm
    rw [List.mem_singleton] at hm
    exact hm ▸ vectors_start t slots
  | @deliver n m past a source u _ hm ha hs hu ih =>
    intro k hk
    rcases List.mem_cons.1 hk with rfl | hk
    · exact (heard_update (ih n List.mem_cons_self) (ih m hm) ha hs hu).1
    · exact ih k hk

/-- **Costs never grow** in a run. -/
theorem ownCost_le (h : Gossip t slots n past) :
    ∀ m ∈ n :: past, ∀ b ∈ t.nodeIds, ∀ x ∈ t.nodeIds, n.ownCost b x ≤ m.ownCost b x := by
  induction h with
  | start =>
    intro m hm b _ x _
    rw [List.mem_singleton] at hm
    exact hm ▸ UInt32.le_refl _
  | @deliver n m past a source u hrun hm ha hs hu ih =>
    have hvec := hrun.vectors
    intro k hk b hb x hx
    rcases List.mem_cons.1 hk with rfl | hk
    · exact UInt32.le_refl _
    · have hle := ownCost_update_le (hvec n List.mem_cons_self) (hvec m hm) ha hs hu hb hx
      exact UInt32.le_trans hle (ih k hk b hb x hx)

/-- In every state of a run, the nodes are in order for each destination. -/
theorem descends (h : Gossip t slots n past) {dest : NodeId} (hd : dest ∈ t.nodeIds) :
    n.Descends t dest := by
  induction h with
  | start => exact descends_start t slots hd
  | @deliver n m past a source u hrun hm ha hs hu ih =>
    have hvec := hrun.vectors
    have hsource := (Topology.mem_neighborIds_iff.1 hs).1
    -- the sender has advertised what it paid in an earlier state, and pays no more by now
    have hsaid := hrun.ownCost_le m hm source hsource dest hd
    exact ih.deliver (hvec n List.mem_cons_self) (hvec m hm) ha hs hu hd hsaid

theorem exists_forwards (h : Gossip t slots n past) {a dest : NodeId} (ha : a ∈ t.nodeIds)
    (hd : dest ∈ t.nodeIds) (hfin : n.ownCost a dest < infiniteCost) :
    ∃ stops w, n.Forwards dest a stops ∧ t.Walk [] a stops dest w ∧
      w ≤ (n.ownCost a dest).toNat ∧ (a :: stops).Nodup :=
  (h.descends hd).exists_forwards ha hfin

/-- No node ever believes in less than the least cost. -/
theorem distance_le (h : Gossip t slots n past) {a dest : NodeId} (ha : a ∈ t.nodeIds)
    (hd : dest ∈ t.nodeIds) :
    (LinkGraph.start t).distance a dest ≤ min (n.ownCost a dest) infiniteCost := by
  have hcheap : t.Cheapest [] a dest ((LinkGraph.start t).distance a dest).toNat :=
    LinkGraph.cheapest_distance_afterRemovals [] ha hd
  have hinf := hcheap.le_infiniteCost
  rw [UInt32.le_iff_toNat_le, UInt32.toNat_min]
  by_cases hfin : n.ownCost a dest < infiniteCost
  · obtain ⟨stops, w, -, hw, hle, -⟩ := h.exists_forwards ha hd hfin
    have := hcheap.le_walk hw
    omega
  · rw [UInt32.lt_iff_toNat_lt] at hfin
    omega

/-- **Safety without failures.**  However the advertisements are delivered, no cost is below the
least cost of a walk, no cost has ever grown, and packets for a destination that the node believes
in come from stop to stop to that destination, visit no node twice, and pay no more than the node
believes. -/
theorem forwarding_safe (h : Gossip t slots n past) {a dest : NodeId} (ha : a ∈ t.nodeIds)
    (hd : dest ∈ t.nodeIds) :
    (LinkGraph.start t).distance a dest ≤ min (n.ownCost a dest) infiniteCost ∧
      (∀ m ∈ past, n.ownCost a dest ≤ m.ownCost a dest) ∧
      (a ≠ dest → n.ownCost a dest < infiniteCost →
        ∃ stops w, n.Forwards dest a stops ∧ (a :: stops).Nodup ∧ t.Walk [] a stops dest w ∧
          w ≤ (n.ownCost a dest).toNat) := by
  refine ⟨h.distance_le ha hd, fun m hm => ?_, fun _ hfin => ?_⟩
  · exact h.ownCost_le m (List.mem_cons_of_mem _ hm) a ha dest hd
  · obtain ⟨stops, w, hf, hw, hle, hnd⟩ := h.exists_forwards ha hd hfin
    exact ⟨stops, w, hf, hnd, hw, hle⟩

/-- Both ends of the line hear what the middle said at the start. -/
theorem forwarding_safe_freeLine :
    ∃ n past, Gossip .freeLine 11 n past ∧ past.map (ownCost · 1 3) = [0, 2000] ∧
      n.nextHop 1 3 = some 2 ∧
      (LinkGraph.start .freeLine).distance 1 3 ≤ min (n.ownCost 1 3) infiniteCost ∧
      ∃ stops w, n.Forwards 3 1 stops ∧ (1 :: stops).Nodup ∧ Topology.freeLine.Walk [] 1 stops 3 w ∧
        w ≤ (n.ownCost 1 3).toNat := by
  have hends : (1 : NodeId) ∈ Topology.freeLine.nodeIds ∧
      (3 : NodeId) ∈ Topology.freeLine.nodeIds := by decide
  obtain ⟨u, hu⟩ : ∃ u, (Network.start .distanceVector .freeLine 11).advertisementOf 2 = some u :=
    ⟨_, rfl⟩
  have first := Gossip.start.deliver List.mem_cons_self hends.1 (by decide) hu
  have second := first.deliver (List.mem_cons_of_mem _ List.mem_cons_self) hends.2 (by decide) hu
  obtain rfl : _ = u := Option.some.inj (Eq.trans rfl hu)
  obtain ⟨hge, -, hsafe⟩ := second.forwarding_safe hends.1 hends.2
  exact ⟨_, _, second, by decide +kernel, by decide +kernel, hge,
    hsafe (by decide) (by decide +kernel)⟩

end Gossip

end OverlayStack
