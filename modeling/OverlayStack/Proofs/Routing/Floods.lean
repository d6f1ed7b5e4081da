import Mathlib.Algebra.Order.BigOperators.Group.List
import Mathlib.Algebra.Order.Ring.Nat
import OverlayStack.Proofs.Routing.FailureNotices
import OverlayStack.Proofs.Wire.Packet
import OverlayStack.Routing.Network
import OverlayStack.Routing.NetworkNode

/-!
# Floods of failure notices

A notice of a failure is passed on from neighbor to neighbor, and its source field says how many
hops it has left.  The field also says who met the failure, and then the hops are counted from the
start.  A notice of the failure of a node that has the number of a hop budget is taken for a new one
when it has that budget left, and is passed on for ever by two neighbors.  All other floods end, in
whatever order the notices are delivered.

## Main definitions

* `Circular`, `hopsLeft` — which notices never run out of hops, and how many hops the others have.
* `Network.Handles` — packets are delivered in any order, together with those that this causes.
* `Network.Harmless` — no circular notice is on its way to a node that can pass it on.
* `Network.Endless` — packets can be delivered for ever.
* `Network.worth` — how many deliveries one packet leads to at most.

## Main results

* `not_circular_next` — a notice that is passed on has a hop less left.
* `Network.Handles.length_le` — how many packets are delivered at most.
* `Network.length_fail_le` — the flood after the failure of a node of the topology ends.
* `Network.floods_end_iff` — which floods end.
-/

namespace OverlayStack

/-! ### Hop budgets -/

/-- The hops of a notice with this source field never end: the number of the failed node is one of
the budgets that the notice is going to have. -/
def Circular (source failed : NodeId) : Prop :=
  hopFloor ≤ failed ∧ failed ≤ source ∧ source ≤ hopCeil

instance (source failed : NodeId) : Decidable (Circular source failed) :=
  inferInstanceAs (Decidable (_ ∧ _ ∧ _))

/-- How often a notice is passed on, if it is not circular. -/
def hopsLeft (source failed : NodeId) : Nat :=
  if source = failed then 5
  else if hopFloor < source ∧ source ≤ hopCeil then source.toNat - 1020
  else 0

theorem circular_iff_toNat {source failed : NodeId} : Circular source failed ↔
    1020 ≤ failed.toNat ∧ failed.toNat ≤ source.toNat ∧ source.toNat ≤ 1024 :=
  Iff.rfl

theorem hopsLeft_le (source failed : NodeId) : hopsLeft source failed ≤ 5 := by
  unfold hopsLeft
  split
  · exact Nat.le_refl 5
  · split
    · next hbudget =>
      have hceil : source.toNat ≤ 1024 := hbudget.2
      omega
    · exact Nat.zero_le 5

/-- A notice that is passed on starts with all hops or has spent one. -/
theorem nextFloodHop_eq_some {source failed hop : NodeId}
    (h : nextFloodHop source failed = some hop) :
    source = failed ∧ hop = hopCeil ∨
      source ≠ failed ∧ 1020 < source.toNat ∧ source.toNat ≤ 1024 ∧
        hop.toNat = source.toNat - 1 := by
  unfold nextFloodHop at h
  split at h
  · next heq => exact .inl ⟨heq, (Option.some.inj h).symm⟩
  · next hne =>
    split at h
    · next hbudget =>
      rw [Bool.and_eq_true, decide_eq_true_eq, decide_eq_true_eq] at hbudget
      obtain ⟨hfloor, hceil⟩ : 1020 < source.toNat ∧ source.toNat ≤ 1024 := hbudget
      refine .inr ⟨hne, hfloor, hceil, ?_⟩
      rw [← Option.some.inj h, UInt32.toNat_sub_of_le _ _ (show 1 ≤ source.toNat by omega)]
      rfl
    · cases h

/-- A circular notice is passed on, and stays circular. -/
theorem circular_next {source failed : NodeId} (h : Circular source failed) :
    ∃ hop, nextFloodHop source failed = some hop ∧ Circular hop failed := by
  rw [circular_iff_toNat] at h
  unfold nextFloodHop
  split
  · next heq =>
    subst heq
    exact ⟨hopCeil, rfl, h.1, show source.toNat ≤ 1024 from h.2.2, Nat.le_refl 1024⟩
  · next hne =>
    have hne' : source.toNat ≠ failed.toNat := mt UInt32.toNat_inj.1 hne
    rw [if_pos (by
      rw [Bool.and_eq_true, decide_eq_true_eq, decide_eq_true_eq]
      exact ⟨show 1020 < source.toNat by omega, show source.toNat ≤ 1024 by omega⟩)]
    have hsub : (source - 1).toNat = source.toNat - 1 :=
      UInt32.toNat_sub_of_le _ _ (show 1 ≤ source.toNat by omega)
    refine ⟨source - 1, rfl, circular_iff_toNat.2 ?_⟩
    omega

/-- **A notice that is not circular has a hop less left when it is passed on.** -/
theorem not_circular_next {source failed hop : NodeId} (h : ¬ Circular source failed)
    (hnext : nextFloodHop source failed = some hop) :
    ¬ Circular hop failed ∧ hopsLeft source failed = hopsLeft hop failed + 1 := by
  rw [circular_iff_toNat] at h ⊢
  unfold hopsLeft
  rcases nextFloodHop_eq_some hnext with ⟨rfl, rfl⟩ | ⟨hne, hfloor, hceil, hhop⟩
  -- the failed node has no number of a budget
  · have hceil : hopCeil.toNat = 1024 := rfl
    have hne : hopCeil ≠ source := by
      rintro rfl
      exact h ⟨by decide, Nat.le_refl _, by decide⟩
    rw [hceil, if_pos rfl, if_neg hne, if_pos ⟨by decide, by decide⟩]
    omega
  · have hbudget : hopFloor < source ∧ source ≤ hopCeil := ⟨hfloor, hceil⟩
    have hbudget' : hopFloor < hop ∧ hop ≤ hopCeil ↔ 1020 < hop.toNat ∧ hop.toNat ≤ 1024 := Iff.rfl
    have hne' : hop ≠ failed := by
      rintro rfl
      omega
    rw [if_neg hne, if_pos hbudget, if_neg hne']
    simp only [hbudget']
    refine ⟨by omega, ?_⟩
    split <;> omega

/-- A notice that is not passed on has no hops left. -/
theorem hopsLeft_of_nextFloodHop {source failed : NodeId} (h : nextFloodHop source failed = none) :
    hopsLeft source failed = 0 := by
  unfold nextFloodHop at h
  unfold hopsLeft
  split at h
  · cases h
  · next hne =>
    rw [if_neg hne]
    split at h
    · cases h
    · next hbudget =>
      rw [Bool.and_eq_true, decide_eq_true_eq, decide_eq_true_eq] at hbudget
      exact if_neg hbudget

/-! ### Notices -/

theorem RouteUpdate.entries_of_failedNode? {u : RouteUpdate} {failed : NodeId}
    (h : u.failedNode? = some failed) : ∃ cost, u.entries = [(failed, cost)] := by
  unfold failedNode? at h
  split at h
  · next node cost =>
    split at h
    · exact ⟨cost, by rw [Option.some.inj h]⟩
    · cases h
  · cases h

namespace Packet

/-- The node whose failure a packet reports. -/
def failed? (p : Packet) : Option NodeId :=
  match RouteUpdate.read p.payload with
  | .error _ => none
  | .ok u => u.failedNode?

/-- The notice that a node sends to all neighbors when it gets a packet. -/
def passedOn? (me : NodeId) (p : Packet) : Option Packet :=
  match RouteUpdate.read p.payload with
  | .error _ => none
  | .ok u => u.failedNode?.bind fun failed =>
    if failed = me then none else (nextFloodHop p.source failed).map fun hop => ofUpdate hop u

/-- The packet is a notice that never runs out of hops. -/
def IsCircular (p : Packet) : Prop :=
  (p.failed?.any fun failed => decide (Circular p.source failed)) = true

instance (p : Packet) : Decidable p.IsCircular :=
  inferInstanceAs (Decidable (_ = true))

/-- How often a packet is passed on, if it is not circular. -/
def hops (p : Packet) : Nat :=
  (p.failed?.map (hopsLeft p.source)).getD 0

theorem isCircular_iff {p : Packet} {failed : NodeId} (h : p.failed? = some failed) :
    p.IsCircular ↔ Circular p.source failed := by
  rw [IsCircular, h, Option.any_some, decide_eq_true_eq]

theorem failed?_ofUpdate (source : NodeId) {u : RouteUpdate} {failed : NodeId}
    (h : u.failedNode? = some failed) : (ofUpdate source u).failed? = some failed := by
  obtain ⟨cost, hentries⟩ := RouteUpdate.entries_of_failedNode? h
  have hlength : u.entries.length < 4294967296 := by
    rw [hentries, List.length_singleton]
    decide
  have hread : RouteUpdate.read u.wire = .ok u := RouteUpdate.read_wire hlength
  unfold failed?
  rw [show (ofUpdate source u).payload = u.wire from rfl, hread]
  exact h

/-- The notice of the failure of a node of a topology is not circular. -/
theorem not_isCircular_failureNotice {failed : NodeId} (h : failed.toNat < 256) :
    ¬ (failureNotice failed).IsCircular := by
  have hfailed : (RouteUpdate.failure failed).failedNode? = some failed := by
    unfold RouteUpdate.failure RouteUpdate.failedNode?
    exact if_pos (UInt32.le_refl _)
  intro hcircular
  have hbudget := (isCircular_iff (failed?_ofUpdate failed hfailed)).1 hcircular
  have := (circular_iff_toNat.1 hbudget).1
  omega

/-- What is passed on reports the same failure, and is not passed on by the failed node. -/
theorem passedOn?_eq_some {me : NodeId} {p p' : Packet} (h : p.passedOn? me = some p') :
    ∃ failed, p.failed? = some failed ∧ failed ≠ me ∧ p'.failed? = some failed ∧
      nextFloodHop p.source failed = some p'.source := by
  unfold passedOn? at h
  unfold failed?
  cases hread : RouteUpdate.read p.payload with
  | error e =>
    rw [hread] at h
    cases h
  | ok u =>
    rw [hread] at h
    obtain ⟨failed, hfailed, h⟩ := Option.bind_eq_some_iff.1 h
    split at h
    · cases h
    · next hne =>
      obtain ⟨hop, hhop, rfl⟩ := Option.map_eq_some_iff.1 h
      exact ⟨failed, hfailed, hne, failed?_ofUpdate hop hfailed, hhop⟩

/-- Notices that are not circular have a hop less left each time. -/
theorem hops_of_passedOn? {me : NodeId} {p p' : Packet} (h : p.passedOn? me = some p')
    (hp : ¬ p.IsCircular) : ¬ p'.IsCircular ∧ p.hops = p'.hops + 1 := by
  obtain ⟨failed, hfailed, -, hfailed', hnext⟩ := passedOn?_eq_some h
  rw [isCircular_iff hfailed] at hp
  rw [isCircular_iff hfailed', hops, hops, hfailed, hfailed']
  exact not_circular_next hp hnext

/-- A circular notice is passed on by every node of a topology. -/
theorem IsCircular.passedOn? {me : NodeId} {p : Packet} (h : p.IsCircular) (hme : me.toNat < 256) :
    ∃ p', p.passedOn? me = some p' ∧ p'.IsCircular := by
  cases hfailed : p.failed? with
  | none =>
    rw [IsCircular, hfailed] at h
    cases h
  | some failed =>
    rw [isCircular_iff hfailed] at h
    obtain ⟨hop, hnext, hcircular⟩ := circular_next h
    have hne : failed ≠ me := by
      rintro rfl
      have := (circular_iff_toNat.1 h).1
      omega
    unfold failed? at hfailed
    unfold Packet.passedOn?
    split at hfailed
    · cases hfailed
    · next u hread =>
      refine ⟨ofUpdate hop u, ?_, (isCircular_iff (failed?_ofUpdate hop hfailed)).2 hcircular⟩
      rw [hfailed, Option.bind_some, if_neg hne, hnext, Option.map_some]

end Packet

/-! ### What nodes do with notices -/

/-- A node that routes by link states refuses an update, or sends on what is to be passed on. -/
theorem LinkState.handle_cases (s : LinkState) {p : Packet} {u : RouteUpdate}
    (hread : RouteUpdate.read p.payload = .ok u) :
    (∃ e, s.handle p.source u = .error e ∧ p.passedOn? s.me = none) ∨
      ∃ s', s.handle p.source u = .ok (s', (p.passedOn? s.me).toList) ∧ s'.me = s.me := by
  unfold handle Packet.passedOn?
  rw [hread]
  dsimp only
  cases u.failedNode? with
  | none => exact .inl ⟨_, rfl, rfl⟩
  | some failed =>
    refine .inr ?_
    rw [Option.bind_some]
    dsimp only
    split
    · exact ⟨s, rfl, rfl⟩
    · refine ⟨s.fail failed, ?_, s.me_fail failed⟩
      cases nextFloodHop p.source failed <;> rfl

namespace Network

variable {n n' : Network} {d : Delivery}

/-- The node is alive. -/
def IsLive (n : Network) (a : NodeId) : Prop :=
  n.routers.contains a = true

instance (n : Network) (a : NodeId) : Decidable (n.IsLive a) :=
  inferInstanceAs (Decidable (_ = true))

/-- The live nodes are nodes of the topology and route by link states. -/
def LinkStates (n : Network) : Prop :=
  ∀ a r, n.routers.find? a = some r → a ∈ n.topology.nodeIds ∧ ∃ s, r = .linkState s ∧ s.me = a

theorem linkStates_start (t : Topology) (slots : Nat) : (start .linkState t slots).LinkStates := by
  intro a r hr
  unfold start at hr
  rw [NodeMap.find?_map] at hr
  obtain ⟨host, hhost, rfl⟩ := Option.map_eq_some_iff.1 hr
  exact ⟨Topology.mem_nodeIds_iff.2 ⟨host, hhost⟩, _, rfl, rfl⟩

/-- The network after the death of a node. -/
def without (n : Network) (a : NodeId) : Network :=
  { n with routers := n.routers.erase a }

theorem LinkStates.without (h : n.LinkStates) (a : NodeId) : (n.without a).LinkStates := by
  intro b r hr
  unfold Network.without at hr
  rw [NodeMap.find?_erase] at hr
  split at hr
  · cases hr
  · exact h b r hr

/-- The same nodes are alive, and all of them route by link states. -/
structure Alike (n n' : Network) : Prop where
  topology_eq : n'.topology = n.topology
  isLive_iff : ∀ a, n'.IsLive a ↔ n.IsLive a
  linkStates : n'.LinkStates

/-- The router of a live node may change its state. -/
theorem LinkStates.alike_insert (h : n.LinkStates) {a : NodeId} {s s' : LinkState}
    (hr : n.routers.find? a = some (.linkState s)) (hs' : s'.me = a) :
    Alike n { n with routers := n.routers.insert a (.linkState s') } := by
  have hfind : ∀ b, (n.routers.insert a (.linkState s')).find? b =
      if b = a then some (.linkState s') else n.routers.find? b := NodeMap.find?_insert _ _ _
  refine ⟨rfl, fun b => ?_, fun b r hb => ?_⟩
  · unfold IsLive NodeMap.contains
    dsimp only
    rw [hfind]
    split
    · next heq =>
      rw [heq, hr]
      exact Iff.rfl
    · rfl
  · dsimp only at hb
    rw [hfind] at hb
    split at hb
    · next heq =>
      rw [heq]
      exact ⟨(h a _ hr).1, s', (Option.some.inj hb).symm, hs'⟩
    · exact h b r hb

/-- **A delivery to a live node** changes nothing but this node, which passes the packet on to its
neighbors or does not. -/
theorem deliver_eq (h : n.LinkStates) (hlive : n.IsLive d.receiver) :
    Alike n (n.deliver d).1 ∧ (n.deliver d).2 =
      (d.packet.passedOn? d.receiver).toList.flatMap (n.toNeighbors d.receiver) := by
  obtain ⟨r, hr⟩ := Option.isSome_iff_exists.1 hlive
  obtain ⟨-, s, rfl, hme⟩ := h _ _ hr
  unfold deliver
  split
  · next hread =>
    refine ⟨⟨rfl, fun _ => Iff.rfl, h⟩, ?_⟩
    unfold Packet.passedOn?
    rw [hread]
    rfl
  · next u hread =>
    have hcases := s.handle_cases hread
    rw [hme] at hcases
    unfold update
    rw [hr]
    dsimp only [Router.handle]
    rcases hcases with ⟨e, he, hnone⟩ | ⟨s', hs', hme'⟩
    · rw [he, hnone]
      exact ⟨⟨rfl, fun _ => Iff.rfl, h⟩, rfl⟩
    · rw [hs']
      exact ⟨h.alike_insert hr hme', rfl⟩

/-! ### Packets in flight -/

/-- `Handles n q log n' q'` says that the packets in `log` are delivered to live nodes of `n`, one
after another, where `q` are the packets in flight before and `q'` those in flight afterwards.  Any
packet in flight can be the next one.  The packets that a node sends are in flight then. -/
inductive Handles : Network → List Delivery → List Delivery → Network → List Delivery → Prop where
  | nil {n : Network} {q : List Delivery} : Handles n q [] n q
  | cons {n n' : Network} {d : Delivery} {before after log q' : List Delivery}
      (hlive : n.IsLive d.receiver)
      (hrest : Handles (n.deliver d).1 (before ++ after ++ (n.deliver d).2) log n' q') :
      Handles n (before ++ d :: after) (d :: log) n' q'

/-- A packet that is not delivered makes no difference. -/
theorem Handles.keep {q log q' : List Delivery} (h : Handles n q log n' q') (d : Delivery) :
    Handles n (d :: q) log n' (d :: q') := by
  induction h with
  | nil => exact .nil
  | @cons n n' d' before after log q' hlive _ ih =>
    exact (.cons hlive ih : Handles n ((d :: before) ++ d' :: after) _ n' (d :: q'))

theorem Handles.append {q log q' : List Delivery} (h : Handles n q log n' q') {n'' : Network}
    {log' q'' : List Delivery} (h' : Handles n' q' log' n'' q'') :
    Handles n q (log ++ log') n'' q'' := by
  induction h with
  | nil => exact h'
  | cons hlive _ ih => exact .cons hlive (ih h')

/-- Delivering packets in the order in which they are sent is one way of delivering them.  If fewer
packets are delivered than allowed, then only packets for dead nodes are left. -/
theorem handles_flood (h : n.LinkStates) (limit : Nat) (q : List Delivery) :
    ∃ q', Handles n q (n.flood limit q).2 (n.flood limit q).1 q' ∧
      ((n.flood limit q).2.length < limit → ∀ d ∈ q', ¬ n.IsLive d.receiver) := by
  fun_induction flood n limit q with
  | case1 n q => exact ⟨q, .nil, fun hlt => absurd hlt (Nat.not_lt_zero _)⟩
  | case2 n limit => exact ⟨[], .nil, fun _ => nofun⟩
  | case3 n limit d queue hlive n' caused hdeliver n'' log hflood ih =>
    obtain ⟨halike, -⟩ := deliver_eq h hlive
    rw [hdeliver] at halike
    obtain ⟨q', hq', hdead⟩ := ih halike.linkStates
    rw [hflood] at hq' hdead
    have hstep : Handles (n.deliver d).1 ([] ++ queue ++ (n.deliver d).2) log n'' q' := by
      rw [hdeliver]
      exact hq'
    refine ⟨q', .cons hlive hstep, fun hlt d' hd' => ?_⟩
    rw [← halike.isLive_iff]
    exact hdead (Nat.lt_of_succ_lt_succ hlt) d' hd'
  | case4 n limit d queue hdead ih =>
    obtain ⟨q', hq', hrest⟩ := ih h
    refine ⟨d :: q', hq'.keep d, fun hlt d' hd' => ?_⟩
    rcases List.mem_cons.1 hd' with rfl | hd'
    · exact hdead
    · exact hrest hlt d' hd'

/-- No circular notice is on its way to a live node with a live neighbor. -/
def Harmless (n : Network) (q : List Delivery) : Prop :=
  ∀ d ∈ q, n.IsLive d.receiver → d.packet.IsCircular →
    ∀ b ∈ n.topology.neighborIds d.receiver, ¬ n.IsLive b

instance (n : Network) (q : List Delivery) : Decidable (n.Harmless q) :=
  inferInstanceAs (Decidable (∀ _ ∈ _, _ → _ → ∀ _ ∈ _, ¬ _))

theorem mem_caused (h : n.LinkStates) (hlive : n.IsLive d.receiver) {d' : Delivery}
    (hd' : d' ∈ (n.deliver d).2) :
    d.packet.passedOn? d.receiver = some d'.packet ∧
      d'.receiver ∈ n.topology.neighborIds d.receiver := by
  rw [(deliver_eq h hlive).2, List.mem_flatMap] at hd'
  obtain ⟨p, hp, hd'⟩ := hd'
  unfold toNeighbors at hd'
  obtain ⟨b, hb, rfl⟩ := List.mem_map.1 hd'
  exact ⟨Option.mem_toList.1 hp, hb⟩

/-- A delivery leaves a harmless flood harmless. -/
theorem Harmless.deliver {before after : List Delivery} (hq : n.Harmless (before ++ d :: after))
    (h : n.LinkStates) (hlive : n.IsLive d.receiver) :
    (n.deliver d).1.Harmless (before ++ after ++ (n.deliver d).2) := by
  obtain ⟨halike, -⟩ := deliver_eq h hlive
  intro d' hd' hlive' hcircular b hb
  rw [halike.isLive_iff] at hlive' ⊢
  rw [halike.topology_eq] at hb
  rcases List.mem_append.1 hd' with hold | hnew
  · refine hq d' ?_ hlive' hcircular b hb
    rw [List.mem_append, List.mem_cons]
    exact (List.mem_append.1 hold).imp_right .inr
  · obtain ⟨hpassed, hreceiver⟩ := mem_caused h hlive hnew
    by_cases hd : d.packet.IsCircular
    -- the receivers of a circular notice are dead
    · exact absurd hlive' (hq d (by simp) hlive hd _ hreceiver)
    · exact absurd hcircular (Packet.hops_of_passedOn? hpassed hd).1

/-! ### Floods that end -/

/-- The number of deliveries when a packet is passed on to `k` nodes, and so on for some hops. -/
def spread (k : Nat) : Nat → Nat
  | 0 => 1
  | hops + 1 => 1 + k * spread k hops

theorem spread_mono (k : Nat) : Monotone (spread k) := by
  refine monotone_nat_of_le_succ fun hops => ?_
  induction hops with
  | zero => exact Nat.le_add_right 1 _
  | succ hops ih => exact Nat.add_le_add_left (Nat.mul_le_mul_left k ih) 1

/-- How many deliveries a packet in flight leads to at most, if the flood is harmless. -/
def worth (n : Network) (d : Delivery) : Nat :=
  if n.IsLive d.receiver then
    if d.packet.IsCircular then 1 else spread n.topology.nodeIds.length d.packet.hops
  else 0

theorem Alike.worth_eq (h : Alike n n') : n'.worth = n.worth := by
  funext d
  unfold worth
  rw [h.topology_eq]
  simp only [h.isLive_iff]

theorem worth_le_spread (n : Network) (d : Delivery) (hd : ¬ d.packet.IsCircular) :
    n.worth d ≤ spread n.topology.nodeIds.length d.packet.hops := by
  unfold worth
  rw [if_neg hd]
  split
  · exact Nat.le_refl _
  · exact Nat.zero_le _

theorem length_caused_le (h : n.LinkStates) (hlive : n.IsLive d.receiver) :
    (n.deliver d).2.length ≤ n.topology.nodeIds.length := by
  rw [(deliver_eq h hlive).2]
  cases d.packet.passedOn? d.receiver with
  | none => exact Nat.zero_le _
  | some p =>
    rw [Option.toList_some, List.flatMap_singleton, toNeighbors, List.length_map]
    exact List.length_filter_le _ _

/-- Each packet that a delivery causes is worth so little that all of them together are worth less
than the delivered one. -/
theorem exists_worth_caused_le {q : List Delivery} (hq : n.Harmless q) (hd : d ∈ q)
    (h : n.LinkStates) (hlive : n.IsLive d.receiver) :
    ∃ w, (∀ d' ∈ (n.deliver d).2, n.worth d' ≤ w) ∧
      n.topology.nodeIds.length * w < n.worth d := by
  have hworth : n.worth d = if d.packet.IsCircular then 1
      else spread n.topology.nodeIds.length d.packet.hops := if_pos hlive
  by_cases hcircular : d.packet.IsCircular
  · rw [hworth, if_pos hcircular]
    refine ⟨0, fun d' hd' => Nat.le_of_eq (if_neg ?_), Nat.one_pos⟩
    exact hq d hd hlive hcircular _ (mem_caused h hlive hd').2
  · rw [hworth, if_neg hcircular]
    cases hhops : d.packet.hops with
    | zero =>
      refine ⟨0, fun d' hd' => ?_, Nat.one_pos⟩
      have := (Packet.hops_of_passedOn? (mem_caused h hlive hd').1 hcircular).2
      omega
    | succ hops =>
      refine ⟨spread n.topology.nodeIds.length hops, fun d' hd' => ?_, ?_⟩
      · obtain ⟨hd'', hlt⟩ :=
          Packet.hops_of_passedOn? (mem_caused h hlive hd').1 hcircular
        exact (n.worth_le_spread d' hd'').trans (spread_mono _ (by omega))
      · exact Nat.lt_add_of_pos_left Nat.one_pos

/-- **A delivery makes what is in flight worth less.** -/
theorem sum_worth_caused_lt {q : List Delivery} (hq : n.Harmless q) (hd : d ∈ q)
    (h : n.LinkStates) (hlive : n.IsLive d.receiver) :
    ((n.deliver d).2.map n.worth).sum < n.worth d := by
  obtain ⟨w, hle, hlt⟩ := exists_worth_caused_le hq hd h hlive
  calc ((n.deliver d).2.map n.worth).sum
      ≤ ((n.deliver d).2.map n.worth).length • w := by
        refine List.sum_le_card_nsmul _ w fun x hx => ?_
        obtain ⟨d', hd', rfl⟩ := List.mem_map.1 hx
        exact hle d' hd'
    _ ≤ n.topology.nodeIds.length * w := by
        rw [List.length_map]
        exact Nat.mul_le_mul_right w (length_caused_le h hlive)
    _ < n.worth d := hlt

theorem Handles.length_add_le {q log q' : List Delivery} (hrun : Handles n q log n' q')
    (h : n.LinkStates) (hq : n.Harmless q) :
    log.length + (q'.map n'.worth).sum ≤ (q.map n.worth).sum := by
  induction hrun with
  | nil => rw [List.length_nil, Nat.zero_add]
  | @cons n n' d before after log q' hlive _ ih =>
    obtain ⟨halike, -⟩ := deliver_eq h hlive
    have hrest := ih halike.linkStates (hq.deliver h hlive)
    have hless := sum_worth_caused_lt hq (by simp) h hlive
    rw [halike.worth_eq] at hrest
    simp only [List.map_append, List.sum_append, List.map_cons, List.sum_cons,
      List.length_cons] at hrest ⊢
    omega

theorem worth_le (n : Network) (d : Delivery) :
    n.worth d ≤ spread n.topology.nodeIds.length 5 := by
  unfold worth
  split
  · split
    · exact spread_mono _ (Nat.zero_le 5)
    · refine spread_mono _ ?_
      unfold Packet.hops
      cases d.packet.failed? with
      | none => exact Nat.zero_le 5
      | some failed => exact hopsLeft_le _ _
  · exact Nat.zero_le _

/-- **How many packets are delivered in a harmless flood**, at most: those in flight, and for each
of them as many as are passed on five times by all nodes to all nodes. -/
theorem Handles.length_le {q log q' : List Delivery} (hrun : Handles n q log n' q')
    (h : n.LinkStates) (hq : n.Harmless q) :
    log.length ≤ q.length * spread n.topology.nodeIds.length 5 := by
  have hsum : (q.map n.worth).sum ≤
      (q.map n.worth).length • spread n.topology.nodeIds.length 5 := by
    refine List.sum_le_card_nsmul _ _ fun x hx => ?_
    obtain ⟨d, -, rfl⟩ := List.mem_map.1 hx
    exact n.worth_le d
  rw [List.length_map] at hsum
  exact (Nat.le_add_right _ _).trans ((hrun.length_add_le h hq).trans hsum)

/-- **The flood after the failure of a node of the topology ends**, whatever number of deliveries is
allowed. -/
theorem length_fail_le (h : n.LinkStates) {failed : NodeId} (hfailed : failed ∈ n.topology.nodeIds)
    (limit : Nat) :
    (n.fail failed limit).2.length ≤
      (n.topology.neighborIds failed).length * spread n.topology.nodeIds.length 5 := by
  obtain ⟨q', hrun, -⟩ := handles_flood (h.without failed) limit
    ((n.without failed).toNeighbors failed (.failureNotice failed))
  have hharmless : (n.without failed).Harmless
      ((n.without failed).toNeighbors failed (.failureNotice failed)) := by
    intro d hd _ hcircular
    obtain ⟨b, -, rfl⟩ := List.mem_map.1 hd
    have hnode := Topology.toNat_lt_of_mem_nodeIds hfailed
    exact absurd hcircular (Packet.not_isCircular_failureNotice hnode)
  have hle := hrun.length_le (h.without failed) hharmless
  rwa [toNeighbors, List.length_map] at hle

/-! ### Floods that do not end -/

/-- Packets can be delivered in an order that never comes to an end. -/
def Endless (n : Network) (q : List Delivery) : Prop :=
  ∃ f : Nat → Network × List Delivery, f 0 = (n, q) ∧
    ∀ k, ∃ d, Handles (f k).1 (f k).2 [d] (f (k + 1)).1 (f (k + 1)).2

theorem Endless.exists_handles {q : List Delivery} (h : n.Endless q) (length : Nat) :
    ∃ log n' q', Handles n q log n' q' ∧ log.length = length := by
  obtain ⟨f, hstart, hstep⟩ := h
  have hrun : ∃ log, Handles (f 0).1 (f 0).2 log (f length).1 (f length).2 ∧
      log.length = length := by
    induction length with
    | zero => exact ⟨[], .nil, rfl⟩
    | succ k ih =>
      obtain ⟨log, hlog, hlength⟩ := ih
      obtain ⟨d, hd⟩ := hstep k
      exact ⟨log ++ [d], hlog.append hd, by rw [List.length_append, hlength]; rfl⟩
  obtain ⟨log, hlog, hlength⟩ := hrun
  rw [hstart] at hlog
  exact ⟨log, _, _, hlog, hlength⟩

/-- When a circular notice is delivered, a live neighbor is the next to get one, and can send it
back. -/
theorem exists_handles_of_not_harmless (h : n.LinkStates) {q : List Delivery}
    (hq : ¬ n.Harmless q) :
    ∃ d n' q', Handles n q [d] n' q' ∧ n'.LinkStates ∧ ¬ n'.Harmless q' := by
  unfold Harmless at hq
  push Not at hq
  obtain ⟨d, hd, hlive, hcircular, b, hb, hblive⟩ := hq
  obtain ⟨before, after, rfl⟩ := List.append_of_mem hd
  obtain ⟨halike, hcaused⟩ := deliver_eq h hlive
  refine ⟨d, _, _, .cons hlive .nil, halike.linkStates, fun hharmless => ?_⟩
  obtain ⟨r, hr⟩ := Option.isSome_iff_exists.1 hlive
  have hnode := (h _ _ hr).1
  obtain ⟨p, hpassed, hp⟩ := hcircular.passedOn? (Topology.toNat_lt_of_mem_nodeIds hnode)
  have hback : d.receiver ∈ n.topology.neighborIds b := by
    rw [Topology.mem_neighborIds_iff] at hb ⊢
    exact ⟨hnode, by rw [Topology.link?_comm]; exact hb.2⟩
  have hnew : (⟨d.receiver, b, p⟩ : Delivery) ∈ before ++ after ++ (n.deliver d).2 := by
    refine List.mem_append_right _ ?_
    rw [hcaused, hpassed, Option.toList_some, List.flatMap_singleton, toNeighbors]
    exact List.mem_map_of_mem hb
  exact hharmless _ hnew ((halike.isLive_iff b).2 hblive) hp _ (halike.topology_eq ▸ hback)
    ((halike.isLive_iff _).2 hlive)

/-- **Two live neighbors pass a circular notice on to each other for ever.** -/
theorem endless_of_not_harmless (h : n.LinkStates) {q : List Delivery} (hq : ¬ n.Harmless q) :
    n.Endless q := by
  have hnext : ∀ s : { s : Network × List Delivery // s.1.LinkStates ∧ ¬ s.1.Harmless s.2 },
      ∃ s' : { s : Network × List Delivery // s.1.LinkStates ∧ ¬ s.1.Harmless s.2 },
        ∃ d, Handles s.1.1 s.1.2 [d] s'.1.1 s'.1.2 := by
    rintro ⟨⟨n, q⟩, hs, hq⟩
    obtain ⟨d, n', q', hstep, hrest⟩ := exists_handles_of_not_harmless hs hq
    exact ⟨⟨(n', q'), hrest⟩, d, hstep⟩
  choose next hstep using hnext
  refine ⟨fun k => (next^[k] ⟨(n, q), h, hq⟩).1, rfl, fun k => ?_⟩
  dsimp only
  rw [Function.iterate_succ_apply']
  exact hstep _

/-- **Which floods end.**  In a network of link state nodes, if no circular notice is on its way to
a live node with a live neighbor, then the number of packets that are delivered to live nodes is
bounded, over all orders of delivery.  If there is such a notice, then packets can be delivered for
ever. -/
theorem floods_end_iff (h : n.LinkStates) (q : List Delivery) :
    ((∃ bound, ∀ log n' q', Handles n q log n' q' → log.length ≤ bound) ↔ n.Harmless q) ∧
      (n.Endless q ↔ ¬ n.Harmless q) := by
  have hbounded : n.Harmless q →
      ∃ bound, ∀ log n' q', Handles n q log n' q' → log.length ≤ bound :=
    fun hq => ⟨_, fun _ _ _ hrun => hrun.length_le h hq⟩
  have hendless : n.Endless q →
      ¬ ∃ bound, ∀ log n' q', Handles n q log n' q' → log.length ≤ bound := by
    rintro hq ⟨bound, hbound⟩
    obtain ⟨log, n', q', hrun, hlength⟩ := hq.exists_handles (bound + 1)
    have := hbound log n' q' hrun
    omega
  refine ⟨⟨fun hbound => ?_, hbounded⟩, ⟨fun hq => mt hbounded (hendless hq), ?_⟩⟩
  · by_contra hq
    exact hendless (endless_of_not_harmless h hq) hbound
  · exact endless_of_not_harmless h

open OverlayStack.Topology (chordedLine)

/-- The notices of the failure of a node, and one of the failure of an unknown node that has the
number of a hop budget but comes with a smaller budget. -/
theorem floods_end_chordedLine :
    ∃ bound, ∀ log n' q', Handles ((start .linkState chordedLine 10).without 3)
      (⟨9, 1, Packet.ofUpdate 1021 (.failure 1023)⟩ ::
        (start .linkState chordedLine 10).toNeighbors 3 (Packet.failureNotice 3)) log n' q' →
      log.length ≤ bound :=
  (floods_end_iff ((linkStates_start chordedLine 10).without 3) _).1.2 (by decide +kernel)

/-- A notice of the failure of a node with the number 1021 travels for ever. -/
theorem endless_chordedLine : (start .linkState chordedLine 10).LinkStates ∧
    (start .linkState chordedLine 10).Endless [⟨2, 1, Packet.failureNotice 1021⟩] := by
  refine ⟨linkStates_start chordedLine 10,
    endless_of_not_harmless (linkStates_start chordedLine 10) fun hharmless => ?_⟩
  exact hharmless _ (List.mem_singleton_self _) (by decide +kernel) (by decide +kernel) 2
    (by decide) (by decide +kernel)

end Network

end OverlayStack
