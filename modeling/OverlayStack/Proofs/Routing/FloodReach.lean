import OverlayStack.Proofs.Routing.Floods

/-!
# How far a notice of a failure gets

A node that gets the notice of a failure marks the failed node as removed and passes the notice on
to all its neighbors, for as long as the notice has hops left.  Nobody remembers which notices were
passed on before.  A notice in flight therefore stands for all nodes that it is still going to
reach: those that a walk over live nodes, of no more links than the notice has hops, joins to its
receiver.  A delivery replaces a notice by others that stand for the same nodes, except for the
receiver, which has marked the failed node by then.

## Main definitions

* `Topology.Near` — a walk of a bounded number of links over live nodes, which can be decided.
* `Network.Marks` — a live node has marked another one as removed.
* `Network.Survives`, `Network.Honest` — the state of a network and of a notice after some failures.
* `Network.Reaches` — the nodes that notices in flight stand for.
* `Network.afterFailures` — the network after nodes have failed, one after another.

## Main results

* `Network.Survives.deliver` — what one delivery does to marks and to notices in flight.
* `Network.Survives.handles` — what a flood does.
* `Network.marked_afterFailures` — which nodes have marked a failed node.
-/

namespace OverlayStack

/-! ### Walks of few links -/

namespace Topology

variable {t : Topology} {gone : List NodeId} {a b : NodeId} {links : Nat}

/-- A walk over live nodes joins two nodes, and has at most some number of links. -/
def Near (t : Topology) (gone : List NodeId) (links : Nat) (a b : NodeId) : Prop :=
  ∃ stops w, t.Walk gone a stops b w ∧ stops.length ≤ links

theorem Near.alive_left (h : t.Near gone links a b) : t.Alive gone a := by
  obtain ⟨stops, w, hwalk, -⟩ := h
  exact hwalk.alive_left

/-- The more nodes are gone, the fewer walks there are. -/
theorem Near.of_gone_subset {gone' : List NodeId} (hsub : gone' ⊆ gone)
    (h : t.Near gone links a b) : t.Near gone' links a b := by
  obtain ⟨stops, w, hwalk, hlen⟩ := h
  exact ⟨stops, w, hwalk.of_gone_subset fun _ _ hx => hsub hx, hlen⟩

theorem near_zero_iff (ha : t.Alive gone a) : t.Near gone 0 a b ↔ b = a := by
  constructor
  · rintro ⟨stops, w, hwalk, hlen⟩
    obtain rfl := List.length_eq_zero_iff.1 (Nat.le_zero.1 hlen)
    cases hwalk
    rfl
  · rintro rfl
    exact ⟨[], 0, .stay ha, Nat.le_refl 0⟩

/-- A walk stays where it is or goes on from a neighbor. -/
theorem near_succ_iff (ha : t.Alive gone a) :
    t.Near gone (links + 1) a b ↔ b = a ∨ ∃ c ∈ t.neighborIds a, t.Near gone links c b := by
  constructor
  · rintro ⟨stops, w, hwalk, hlen⟩
    cases hwalk with
    | stay _ => exact .inl rfl
    | @step _ c _ stops w _ hlink hrest =>
      rw [List.length_cons] at hlen
      have hc : c ∈ t.neighborIds a := mem_neighborIds_iff.2 ⟨hrest.alive_left.1, hlink⟩
      exact .inr ⟨c, hc, stops, w, hrest, by omega⟩
  · rintro (rfl | ⟨c, hc, stops, w, hrest, hlen⟩)
    · exact ⟨[], 0, .stay ha, Nat.zero_le _⟩
    · refine ⟨c :: stops, _, .step ha (mem_neighborIds_iff.1 hc).2 hrest, ?_⟩
      rw [List.length_cons]
      omega

/-- Whether there is such a walk is found by trying all neighbors. -/
instance decidableNear (t : Topology) (gone : List NodeId) :
    ∀ (links : Nat) (a b : NodeId), Decidable (t.Near gone links a b)
  | 0, a, _ =>
    if ha : t.Alive gone a then decidable_of_iff _ (near_zero_iff ha).symm
    else isFalse fun h => ha h.alive_left
  | links + 1, a, b =>
    have := fun c => decidableNear t gone links c b
    have : Decidable (∃ c ∈ t.neighborIds a, t.Near gone links c b) := List.decidableBEx _ _
    if ha : t.Alive gone a then decidable_of_iff _ (near_succ_iff ha).symm
    else isFalse fun h => ha h.alive_left

end Topology

/-! ### Hops of notices -/

namespace Packet

variable {me failed : NodeId} {p : Packet}

/-- A notice that other nodes than the failed one do not pass on has no hops left. -/
theorem hops_of_passedOn?_eq_none (hfailed : p.failed? = some failed) (hme : failed ≠ me)
    (h : p.passedOn? me = none) : p.hops = 0 := by
  rw [hops, hfailed]
  unfold failed? at hfailed
  unfold Packet.passedOn? at h
  split at hfailed
  · cases hfailed
  · next u hread =>
    rw [hread] at h
    dsimp only at h
    rw [hfailed, Option.bind_some, if_neg hme, Option.map_eq_none_iff] at h
    exact hopsLeft_of_nextFloodHop h

theorem failed?_failureNotice (failed : NodeId) :
    (failureNotice failed).failed? = some failed := by
  apply failed?_ofUpdate
  unfold RouteUpdate.failure RouteUpdate.failedNode?
  exact if_pos (UInt32.le_refl _)

/-- The notice of a neighbor of the failed node has all hops left. -/
theorem hops_failureNotice (failed : NodeId) :
    (failureNotice failed).hops = (hopCeil - hopFloor + 1).toNat := by
  rw [hops, failed?_failureNotice]
  exact if_pos rfl

end Packet

/-! ### Marks of a node -/

/-- What a node has marked as removed after an update. -/
theorem LinkState.isRemoved_afterUpdate (s : LinkState) (source failed : NodeId) (u : RouteUpdate) :
    (s.afterUpdate (source, u)).graph.isRemoved failed = true ↔
      s.graph.isRemoved failed = true ∨
        u.failedNode? = some failed ∧ failed ≠ s.me ∧ failed ∈ s.graph.topology.nodeIds := by
  unfold LinkGraph.isRemoved
  rw [List.contains_iff_mem, List.contains_iff_mem]
  rcases s.afterUpdate_cases (source, u) with ⟨heq, hme⟩ | ⟨node, hnode, hne, heq⟩
  · rw [heq]
    refine ⟨.inl, ?_⟩
    rintro (h | ⟨h, hne, -⟩)
    · exact h
    · exact absurd (hme failed (Option.mem_def.2 h)) hne
  · rw [heq, graph_fail, LinkGraph.mem_removed_remove_iff, hnode, Option.some.injEq]
    constructor
    · rintro (h | ⟨rfl, h⟩)
      · exact .inl h
      · exact .inr ⟨rfl, hne, h⟩
    · rintro (h | ⟨rfl, -, h⟩)
      · exact .inl h
      · exact .inr ⟨rfl, h⟩

theorem LinkState.topology_afterUpdate (s : LinkState) (update : NodeId × RouteUpdate) :
    (s.afterUpdate update).graph.topology = s.graph.topology := by
  rcases s.afterUpdate_cases update with ⟨heq, -⟩ | ⟨node, -, -, heq⟩
  · rw [heq]
  · rw [heq, graph_fail, LinkGraph.topology_remove]

namespace Network

variable {t : Topology} {gone : List NodeId} {n n' : Network} {d : Delivery}
  {a b failed : NodeId} {q q' : List Delivery}

/-- A live node has marked a node as removed. -/
def Marks (n : Network) (a failed : NodeId) : Prop :=
  ∃ s, n.routers.find? a = some (.linkState s) ∧ s.graph.isRemoved failed = true

/-- Some nodes of a network of link state nodes are gone. -/
structure Survives (n : Network) (t : Topology) (gone : List NodeId) : Prop where
  topology_eq : n.topology = t
  linkStates : n.LinkStates
  graph_eq : ∀ a s, n.routers.find? a = some (.linkState s) → s.graph.topology = t
  isLive_iff : ∀ a, n.IsLive a ↔ t.Alive gone a

/-- A packet is no circular notice, and the failure that it reports has happened. -/
structure Honest (t : Topology) (gone : List NodeId) (p : Packet) : Prop where
  not_isCircular : ¬ p.IsCircular
  gone : ∀ failed, p.failed? = some failed → failed ∈ t.nodeIds ∧ failed ∈ gone

/-- A notice of a failure is in flight that is going to reach a node. -/
def Reaches (t : Topology) (gone : List NodeId) (q : List Delivery) (a failed : NodeId) : Prop :=
  ∃ d ∈ q, d.packet.failed? = some failed ∧ t.Near gone d.packet.hops d.receiver a

theorem reaches_append_iff {first second : List Delivery} :
    Reaches t gone (first ++ second) a failed ↔
      Reaches t gone first a failed ∨ Reaches t gone second a failed := by
  simp only [Reaches, List.mem_append, or_and_right, exists_or]

theorem reaches_cons_iff :
    Reaches t gone (d :: q) a failed ↔
      d.packet.failed? = some failed ∧ t.Near gone d.packet.hops d.receiver a ∨
        Reaches t gone q a failed := by
  simp only [Reaches, List.mem_cons, or_and_right, exists_or, exists_eq_left]

theorem reaches_toNeighbors_iff {p : Packet} (htopology : n.topology = t) :
    Reaches t gone (n.toNeighbors b p) a failed ↔
      p.failed? = some failed ∧ ∃ c ∈ t.neighborIds b, t.Near gone p.hops c a := by
  unfold Reaches toNeighbors
  simp only [htopology, List.mem_map, exists_exists_and_eq_and]
  constructor
  · rintro ⟨c, hc, hp, hnear⟩
    exact ⟨hp, c, hc, hnear⟩
  · rintro ⟨hp, c, hc, hnear⟩
    exact ⟨c, hc, hp, hnear⟩

/-! ### One delivery -/

/-- A delivery to a live node changes the state of this node, as the packet says. -/
theorem exists_find?_deliver {s : LinkState}
    (hr : n.routers.find? d.receiver = some (.linkState s)) :
    ∃ s', (∀ b, (n.deliver d).1.routers.find? b =
        if b = d.receiver then some (.linkState s') else n.routers.find? b) ∧
      s'.graph.topology = s.graph.topology ∧
      ∀ failed, s'.graph.isRemoved failed = true ↔ s.graph.isRemoved failed = true ∨
        d.packet.failed? = some failed ∧ failed ≠ s.me ∧ failed ∈ s.graph.topology.nodeIds := by
  have hsame : ∀ b, n.routers.find? b =
      if b = d.receiver then some (.linkState s) else n.routers.find? b := by
    intro b
    split
    · next heq => rw [heq, hr]
    · rfl
  unfold deliver Packet.failed?
  cases hread : RouteUpdate.read d.packet.payload with
  | error _ => exact ⟨s, hsame, rfl, by simp⟩
  | ok u =>
    refine ⟨s.afterUpdate (d.packet.source, u), ?_, s.topology_afterUpdate _,
      fun failed => s.isRemoved_afterUpdate _ failed u⟩
    unfold update LinkState.afterUpdate
    rw [hr]
    dsimp only [Router.handle]
    cases s.handle d.packet.source u with
    | error _ => exact hsame
    | ok result => exact NodeMap.find?_insert _ _ _

variable (h : n.Survives t gone)

include h

/-- **What one delivery does.**  The receiver marks the failed node, and the notices that it sends
are going to reach the other nodes that the delivered one was. -/
theorem Survives.deliver (hd : Honest t gone d.packet) (hlive : n.IsLive d.receiver) :
    (n.deliver d).1.Survives t gone ∧
      (∀ d' ∈ (n.deliver d).2, Honest t gone d'.packet) ∧
      ∀ a failed, (n.deliver d).1.Marks a failed ∨ Reaches t gone (n.deliver d).2 a failed ↔
        n.Marks a failed ∨ Reaches t gone [d] a failed := by
  obtain ⟨halike, hcaused⟩ := deliver_eq h.linkStates hlive
  obtain ⟨r, hr⟩ := Option.isSome_iff_exists.1 hlive
  obtain ⟨-, s, rfl, hme⟩ := h.linkStates _ _ hr
  obtain ⟨s', hfind, htopology, hmarks⟩ := exists_find?_deliver hr
  have halive := (h.isLive_iff _).1 hlive
  have hgraph := h.graph_eq _ _ hr
  rw [hgraph] at htopology hmarks
  rw [hme] at hmarks
  have hmarked : ∀ a failed, (n.deliver d).1.Marks a failed ↔
      n.Marks a failed ∨ a = d.receiver ∧ d.packet.failed? = some failed := by
    intro a failed
    unfold Marks
    rw [hfind]
    by_cases ha : a = d.receiver
    · subst ha
      simp only [↓reduceIte, hr, Option.some.injEq, Router.linkState.injEq, exists_eq_left', hmarks,
        true_and]
      refine or_congr Iff.rfl (and_iff_left_of_imp fun hfailed => ?_)
      obtain ⟨hnode, hgone⟩ := hd.gone failed hfailed
      exact ⟨fun heq => halive.2 (heq ▸ hgone), hnode⟩
    · simp [ha]
  refine ⟨⟨halike.topology_eq.trans h.topology_eq, halike.linkStates, ?_, fun b => ?_⟩, ?_, ?_⟩
  · intro b sb hb
    rw [hfind] at hb
    split at hb
    · cases hb
      exact htopology
    · exact h.graph_eq b sb hb
  · rw [halike.isLive_iff, h.isLive_iff]
  · intro d' hd'
    obtain ⟨hpassed, -⟩ := mem_caused h.linkStates hlive hd'
    refine ⟨(Packet.hops_of_passedOn? hpassed hd.not_isCircular).1, fun failed hfailed => ?_⟩
    obtain ⟨failed', hfailed', -, hsame, -⟩ := Packet.passedOn?_eq_some hpassed
    rw [hsame] at hfailed
    exact hd.gone failed (hfailed ▸ hfailed')
  · intro a failed
    rw [hmarked, or_assoc]
    refine or_congr Iff.rfl ?_
    rw [reaches_cons_iff, or_iff_left (show ¬ Reaches t gone [] a failed from
      fun ⟨_, hmem, _⟩ => List.not_mem_nil hmem), hcaused]
    by_cases hfailed : d.packet.failed? = some failed
    · obtain ⟨-, hgone⟩ := hd.gone failed hfailed
      have hne : failed ≠ d.receiver := fun heq => halive.2 (heq ▸ hgone)
      cases hpassed : d.packet.passedOn? d.receiver with
      | none =>
        rw [Packet.hops_of_passedOn?_eq_none hfailed hne hpassed, Topology.near_zero_iff halive]
        simp [hfailed, Reaches]
      | some p' =>
        obtain ⟨-, hhops⟩ := Packet.hops_of_passedOn? hpassed hd.not_isCircular
        obtain ⟨failed', hsame, -, hfailed', -⟩ := Packet.passedOn?_eq_some hpassed
        rw [hhops, Topology.near_succ_iff halive, Option.toList_some, List.flatMap_singleton,
          reaches_toNeighbors_iff h.topology_eq, hfailed', ← hsame]
        simp [hfailed]
    -- what is passed on reports the same failure
    · refine iff_of_false ?_ fun hnear => hfailed hnear.1
      rintro (⟨-, hmem⟩ | ⟨d', hmem, hfailed', -⟩)
      · exact hfailed hmem
      · rw [← hcaused] at hmem
        obtain ⟨failed', hsame, -, hsame', -⟩ :=
          Packet.passedOn?_eq_some (mem_caused h.linkStates hlive hmem).1
        rw [hsame'] at hfailed'
        exact hfailed (hfailed' ▸ hsame)

/-! ### Floods -/

/-- **What a flood does**, in whatever order the packets are delivered. -/
theorem Survives.handles {log : List Delivery} (hrun : Handles n q log n' q')
    (hq : ∀ d ∈ q, Honest t gone d.packet) :
    n'.Survives t gone ∧ ∀ a failed, n'.Marks a failed ∨ Reaches t gone q' a failed ↔
      n.Marks a failed ∨ Reaches t gone q a failed := by
  induction hrun with
  | nil => exact ⟨h, fun _ _ => Iff.rfl⟩
  | @cons n n' d before after log q' hlive _ ih =>
    obtain ⟨hnext, hcaused, hmarks⟩ := h.deliver (hq d (by simp)) hlive
    obtain ⟨hlast, hrest⟩ := ih hnext fun d' hd' => by
      rcases List.mem_append.1 hd' with hold | hnew
      · exact hq d' (by simp only [List.mem_append, List.mem_cons] at hold ⊢; tauto)
      · exact hcaused d' hnew
    refine ⟨hlast, fun a failed => ?_⟩
    have hstep := hmarks a failed
    rw [hrest, reaches_append_iff, reaches_append_iff, ← List.singleton_append, reaches_append_iff,
      reaches_append_iff]
    tauto

/-- When no packet is left, just those nodes have marked a failed node that had done so before or
that a notice was going to reach. -/
theorem Survives.flood {limit : Nat} (hq : ∀ d ∈ q, Honest t gone d.packet)
    (hlimit : (n.flood limit q).2.length < limit) :
    (n.flood limit q).1.Survives t gone ∧ ∀ a failed, (n.flood limit q).1.Marks a failed ↔
      n.Marks a failed ∨ Reaches t gone q a failed := by
  obtain ⟨q', hrun, hdead⟩ := handles_flood h.linkStates limit q
  obtain ⟨hlast, hmarks⟩ := h.handles hrun hq
  refine ⟨hlast, fun a failed => ?_⟩
  rw [← hmarks, or_iff_left]
  rintro ⟨d, hd, -, hnear⟩
  exact hdead hlimit d hd ((h.isLive_iff _).2 hnear.alive_left)

/-! ### Failures -/

/-- The network after a node has died. -/
theorem Survives.without (a : NodeId) : (n.without a).Survives t (gone ++ [a]) where
  topology_eq := h.topology_eq
  linkStates := h.linkStates.without a
  graph_eq := by
    intro b s hb
    unfold Network.without at hb
    rw [NodeMap.find?_erase] at hb
    split at hb
    · cases hb
    · exact h.graph_eq b s hb
  isLive_iff := by
    intro b
    have hlive := h.isLive_iff b
    unfold IsLive NodeMap.contains Topology.Alive at hlive ⊢
    unfold Network.without
    rw [NodeMap.find?_erase, List.mem_append, List.mem_singleton]
    split
    · next heq => simp [heq]
    · next hne => simp [hlive, hne]

omit h in
/-- More deliveries than these are never needed for one failure in a topology. -/
def floodLimit (t : Topology) : Nat :=
  t.nodeIds.length * spread t.nodeIds.length 5

/-- **What the failure of a node does.**  The flood comes to an end, and then just the nodes near to
the live neighbors of the failed node have marked it. -/
theorem Survives.fail (hfailed : failed ∈ t.nodeIds) {limit : Nat} (hlimit : floodLimit t < limit) :
    (n.fail failed limit).2.length < limit ∧
      (n.fail failed limit).1.Survives t (gone ++ [failed]) ∧
      ∀ a x, a ≠ failed → ((n.fail failed limit).1.Marks a x ↔ n.Marks a x ∨ x = failed ∧
        ∃ b ∈ t.neighborIds failed,
          t.Near (gone ++ [failed]) (hopCeil - hopFloor + 1).toNat b a) := by
  have hlength : (n.fail failed limit).2.length < limit := by
    have hle := length_fail_le h.linkStates (h.topology_eq.symm ▸ hfailed) limit
    rw [h.topology_eq] at hle
    have hfew : (t.neighborIds failed).length ≤ t.nodeIds.length := List.length_filter_le _ _
    exact (hle.trans (Nat.mul_le_mul_right _ hfew)).trans_lt hlimit
  have hhonest : ∀ d ∈ (n.without failed).toNeighbors failed (.failureNotice failed),
      Honest t (gone ++ [failed]) d.packet := by
    intro d hd
    obtain ⟨b, -, rfl⟩ := List.mem_map.1 hd
    refine ⟨Packet.not_isCircular_failureNotice (Topology.toNat_lt_of_mem_nodeIds hfailed), ?_⟩
    intro x hx
    dsimp only at hx
    rw [Packet.failed?_failureNotice] at hx
    obtain rfl := Option.some.inj hx
    exact ⟨hfailed, by simp⟩
  obtain ⟨hlast, hmarks⟩ := (h.without failed).flood hhonest hlength
  refine ⟨hlength, hlast, fun a x hne => ?_⟩
  have hbefore : (n.without failed).Marks a x ↔ n.Marks a x := by
    unfold Marks Network.without
    rw [NodeMap.find?_erase, if_neg hne]
  have hafter := hmarks a x
  rw [hbefore, reaches_toNeighbors_iff (h.without failed).topology_eq,
    Packet.failed?_failureNotice, Packet.hops_failureNotice, Option.some.injEq,
    eq_comm (a := failed)] at hafter
  exact hafter

omit h

/-- The network after some nodes have failed, one after another, and the notices of each failure, at
most a given number of them, have been delivered. -/
def afterFailures (n : Network) (limit : Nat) (failures : List NodeId) : Network :=
  failures.foldl (fun n failed => (n.fail failed limit).1) n

/-- A node that is alive after some failures has marked another one just if it had done so before or
was near to a live neighbor of that node when it failed. -/
theorem Survives.afterFailures {limit : Nat} (hlimit : floodLimit t < limit)
    (failures : List NodeId) :
    ∀ {n : Network} {gone : List NodeId}, n.Survives t gone → (∀ x ∈ failures, x ∈ t.nodeIds) →
      (n.afterFailures limit failures).Survives t (gone ++ failures) ∧
        ∀ a x, t.Alive (gone ++ failures) a →
          ((n.afterFailures limit failures).Marks a x ↔ n.Marks a x ∨
            ∃ earlier later, failures = earlier ++ x :: later ∧ ∃ b ∈ t.neighborIds x,
              t.Near (gone ++ earlier ++ [x]) (hopCeil - hopFloor + 1).toNat b a) := by
  induction failures with
  | nil =>
    intro n gone h _
    rw [List.append_nil]
    exact ⟨h, fun a x _ => by simp [Network.afterFailures]⟩
  | cons failed failures ih =>
    intro n gone h hnodes
    obtain ⟨-, hnext, hmarks⟩ := h.fail (hnodes failed List.mem_cons_self) hlimit
    obtain ⟨hlast, hrest⟩ := ih hnext fun x hx => hnodes x (List.mem_cons_of_mem _ hx)
    rw [List.append_assoc, List.singleton_append] at hlast hrest
    refine ⟨hlast, fun a x ha => ?_⟩
    have hne : a ≠ failed := by
      rintro rfl
      exact ha.2 (by simp)
    refine (hrest a x ha).trans ?_
    rw [hmarks a x hne, or_assoc]
    refine or_congr Iff.rfl ?_
    constructor
    · rintro (⟨rfl, hnear⟩ | ⟨earlier, later, rfl, hnear⟩)
      · exact ⟨[], failures, rfl, by simpa using hnear⟩
      · exact ⟨failed :: earlier, later, rfl, by simpa using hnear⟩
    · rintro ⟨earlier, later, heq, hnear⟩
      rcases List.cons_eq_append_iff.1 heq with ⟨rfl, hfirst⟩ | ⟨earlier, rfl, hrest⟩
      · obtain ⟨rfl, rfl⟩ := List.cons.inj hfirst
        exact .inl ⟨rfl, by simpa using hnear⟩
      · exact .inr ⟨earlier, later, hrest, by simpa using hnear⟩

theorem survives_start (t : Topology) (slots : Nat) : (start .linkState t slots).Survives t [] where
  topology_eq := rfl
  linkStates := linkStates_start t slots
  graph_eq := by
    intro a s ha
    unfold start at ha
    rw [NodeMap.find?_map] at ha
    obtain ⟨host, -, hs⟩ := Option.map_eq_some_iff.1 ha
    cases hs
    rfl
  isLive_iff := by
    intro a
    unfold IsLive NodeMap.contains start Topology.Alive
    rw [NodeMap.find?_map, Option.isSome_map, Topology.mem_nodeIds_iff, Option.isSome_iff_exists]
    simp

theorem not_marks_start (t : Topology) (slots : Nat) (a x : NodeId) :
    ¬ (start .linkState t slots).Marks a x := by
  rintro ⟨s, ha, hx⟩
  unfold start at ha
  rw [NodeMap.find?_map] at ha
  obtain ⟨host, -, hs⟩ := Option.map_eq_some_iff.1 ha
  cases hs
  cases hx

/-- **How far the news of a failure gets.**  Nodes of a topology fail one after another, and the
notices of each failure are delivered in order, for which there is a limit that is never reached.  A
node that is alive in the end has marked a failed node as removed just if a live neighbor of the
failed node was joined to it, when that node failed, by a walk over live nodes of at most as many
links as a notice has hops. -/
theorem marked_afterFailures (t : Topology) (slots : Nat) {limit : Nat}
    (hlimit : floodLimit t < limit) {before after : List NodeId} {failed : NodeId}
    (hnodes : ∀ x ∈ before ++ failed :: after, x ∈ t.nodeIds) (hfailed : failed ∉ before) :
    (((start .linkState t slots).afterFailures limit before).fail failed limit).2.length < limit ∧
      ∀ a, t.Alive (before ++ failed :: after) a → ∃ s,
        ((start .linkState t slots).afterFailures limit
            (before ++ failed :: after)).routers.find? a = some (.linkState s) ∧ s.me = a ∧
          (s.graph.isRemoved failed = true ↔ ∃ b ∈ t.neighborIds failed,
            t.Near (before ++ [failed]) (hopCeil - hopFloor + 1).toNat b a) := by
  have hstart := survives_start t slots
  obtain ⟨hbefore, -⟩ := hstart.afterFailures hlimit before
    fun x hx => hnodes x (List.mem_append_left _ hx)
  obtain ⟨hlast, hmarks⟩ := hstart.afterFailures hlimit (before ++ failed :: after) hnodes
  rw [List.nil_append] at hbefore hlast hmarks
  refine ⟨(hbefore.fail (hnodes failed (by simp)) hlimit).1, fun a ha => ?_⟩
  obtain ⟨r, hr⟩ := Option.isSome_iff_exists.1 ((hlast.isLive_iff a).2 ha)
  obtain ⟨-, s, rfl, hme⟩ := hlast.linkStates a r hr
  refine ⟨s, hr, hme, ?_⟩
  have hmarked : s.graph.isRemoved failed = true ↔ Marks _ a failed :=
    ⟨fun h => ⟨s, hr, h⟩, fun ⟨s', hr', h⟩ => by rw [hr] at hr'; cases hr'; exact h⟩
  rw [hmarked, hmarks a failed ha, or_iff_right (not_marks_start t slots a failed)]
  constructor
  -- a node that fails once more only reaches nodes that it has reached before
  · rintro ⟨earlier, later, heq, b, hb, hnear⟩
    rw [List.nil_append] at hnear
    refine ⟨b, hb, hnear.of_gone_subset ?_⟩
    rcases List.append_eq_append_iff.1 heq with ⟨more, rfl, -⟩ | ⟨more, rfl, heq'⟩
    · intro x hx
      simp only [List.mem_append] at hx ⊢
      tauto
    · cases more with
      | nil => simp
      | cons y more =>
        obtain ⟨rfl, -⟩ := List.cons.inj heq'
        exact absurd (by simp) hfailed
  · rintro ⟨b, hb, hnear⟩
    exact ⟨before, after, rfl, b, hb, hnear⟩

open OverlayStack.Topology (bridgedLine)

/-- In the bridged line, the news of the failure of the first node gets over five links to the
seventh node.  It does not get over a sixth one to the eighth node if the bridge has failed before.
-/
theorem marked_afterFailures_bridgedLine :
    floodLimit bridgedLine < 600000 ∧ ∃ s s' : LinkState,
      ((start .linkState bridgedLine 10).afterFailures 600000 [9, 1]).routers.find? 7 =
          some (.linkState s) ∧ s.graph.isRemoved 1 = true ∧
        ((start .linkState bridgedLine 10).afterFailures 600000 [9, 1]).routers.find? 8 =
          some (.linkState s') ∧ s'.graph.isRemoved 1 = false := by
  have hlimit : floodLimit bridgedLine < 600000 := by decide +kernel
  obtain ⟨-, hmarks⟩ := marked_afterFailures bridgedLine 10 hlimit
    (List.forall_mem_cons.2 ⟨by decide, List.forall_mem_singleton.2 (by decide)⟩)
    (show 1 ∉ [9] by decide)
  obtain ⟨s, hs, -, hiff⟩ := hmarks 7 (by decide)
  obtain ⟨s', hs', -, hiff'⟩ := hmarks 8 (by decide)
  rw [show bridgedLine.neighborIds 1 = [2] by decide] at hiff hiff'
  refine ⟨hlimit, s, s', hs, hiff.2 ⟨2, List.mem_singleton_self 2, by decide +kernel⟩, hs', ?_⟩
  rw [← Bool.not_eq_true, hiff']
  rintro ⟨b, hb, hnear⟩
  obtain rfl := List.mem_singleton.1 hb
  exact absurd hnear (by decide +kernel)

end Network

end OverlayStack
