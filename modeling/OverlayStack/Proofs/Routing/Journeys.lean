import OverlayStack.Proofs.Routing.FailureNotices
import OverlayStack.Routing.NetworkNode

/-!
# Packets among nodes that know of the same failures

When all live nodes have heard of the same failures, their graphs have the same paths, and the
routes of each are the first steps of these.  A packet that is sent on by one node after another
follows a shortest path, or is not sent at all.

## Main definitions

* `NetworkNode.Travels` — a packet goes from node to node as each of them sends it on.
* `NetworkNode.Informed` — a node has heard of just the failures of some nodes.

## Main results

* `LinkState.determined_by_failures` — the routes of nodes, and where packets go, only depend on the
  set of failed nodes.
-/

namespace OverlayStack

open LinkGraph LinkState

namespace NetworkNode

/-- `Travels node p a stops b` says that the packet `p` gets from `a` over the nodes `stops` to `b`,
since each node sends it on to the next one. -/
inductive Travels (node : NodeId → NetworkNode) (p : Packet) :
    NodeId → List NodeId → NodeId → Prop where
  | stay {a : NodeId} : Travels node p a [] a
  | hop {a next b : NodeId} {stops : List NodeId}
      (h : (node a).forward p = [.toOverlay next p]) (rest : Travels node p next stops b) :
      Travels node p a (next :: stops) b

/-- What a node sends for a packet that is for itself. -/
def localDelivery (n : NetworkNode) (p : Packet) : List NetworkOutput :=
  if n.transport.isSome then [.toTransport (Frame.wire (some p.source) p.payload)] else []

theorem forward_of_dest_eq {n : NetworkNode} {p : Packet} (h : p.dest = n.me) :
    n.forward p = n.localDelivery p := by
  rw [forward, if_pos h, localDelivery]

theorem forward_of_dest_ne {n : NetworkNode} {p : Packet} (h : p.dest ≠ n.me) :
    n.forward p = (n.router.nextHop p.dest).toList.map fun next => .toOverlay next p := by
  rw [forward, if_neg h]
  cases n.router.nextHop p.dest <;> rfl

/-- The node `v` routes by link states and has heard, from whatever source and however often, of
just the given failures, apart from its own. -/
structure Informed (t : Topology) (failed : List NodeId) (v : NodeId) (n : NetworkNode) :
    Prop where
  me_eq : n.me = v
  router : ∃ (slots : Nat) (updates : List (NodeId × RouteUpdate)),
    n.router = .linkState ((LinkState.start t v slots).afterUpdates updates) ∧
    ∀ x ∈ t.nodeIds, x ≠ v → (x ∈ named updates ↔ x ∈ failed)

variable {t : Topology} {failed : List NodeId}

/-- A live node sends packets for others along the paths of the surviving topology. -/
theorem Informed.forward_eq {v : NodeId} {n : NetworkNode} (h : Informed t failed v n)
    (hv : v ∉ failed) {p : Packet} (hp : p.dest ∈ t.nodeIds) (hne : p.dest ≠ v) :
    n.forward p =
      ((afterRemovals t failed).nextHop v p.dest).toList.map fun next => .toOverlay next p := by
  obtain ⟨slots, updates, hrouter, hnamed⟩ := h.router
  have hcurrent := current_afterUpdates t v slots updates
  have hpaths := paths_of_named slots hv hnamed
  have hnext : n.router.nextHop p.dest = (afterRemovals t failed).nextHop v p.dest := by
    rw [hrouter]
    show ((LinkState.start t v slots).afterUpdates updates).routes.next? p.dest = _
    rw [hcurrent.next?_eq, if_pos ⟨hp, hne⟩, nextHop, nextHop, path_congr hpaths]
  rw [forward_of_dest_ne (by rwa [h.me_eq]), hnext]

/-- Packets follow the next hops of the surviving topology. -/
theorem travels_of_leads {node : NodeId → NetworkNode}
    (hnode : ∀ v, t.Alive failed v → Informed t failed v (node v)) {p : Packet} {a : NodeId}
    {stops : List NodeId} (h : Leads ((afterRemovals t failed).nextHop · p.dest) p.dest a stops)
    (halive : ∀ x ∈ a :: stops, t.Alive failed x) (hp : p.dest ∈ t.nodeIds) :
    Travels node p a stops p.dest := by
  induction h with
  | arrived => exact .stay
  | @hop a next stops ha hnext _ ih =>
    have hlive := halive a List.mem_cons_self
    apply Travels.hop
    · rw [(hnode a hlive).forward_eq hlive.2 hp (Ne.symm ha), hnext]
      rfl
    · apply ih
      intro x hx
      exact halive x (List.mem_cons_of_mem a hx)

/-- A packet for a node in reach gets there. -/
theorem exists_travels {node : NodeId → NetworkNode}
    (hnode : ∀ v, t.Alive failed v → Informed t failed v (node v)) {p : Packet} {a : NodeId}
    (ha : t.Alive failed a) (hp : t.Alive failed p.dest)
    (hlt : (afterRemovals t failed).distance a p.dest < infiniteCost) :
    ∃ stops, Travels node p a stops p.dest ∧ stops.length ≤ t.nodeIds.length - 1 ∧
      t.Walk failed a stops p.dest ((afterRemovals t failed).distance a p.dest).toNat ∧
      (node p.dest).forward p = (node p.dest).localDelivery p := by
  obtain ⟨stops, hleads, hlen, hwalk⟩ := exists_leads_afterRemovals ha.1 hp.1 hlt
  have halive : ∀ x ∈ a :: stops, t.Alive failed x := by
    intro x hx
    exact hwalk.alive_of_mem hx
  refine ⟨stops, travels_of_leads hnode hleads halive hp.1, Nat.le_sub_one_of_lt hlen, hwalk, ?_⟩
  apply forward_of_dest_eq
  rw [(hnode _ hp).me_eq]

/-- A packet for a node out of reach is not sent. -/
theorem Informed.forward_eq_nil {a : NodeId} {n : NetworkNode} (h : Informed t failed a n)
    {p : Packet} (ha : t.Alive failed a) (hp : t.Alive failed p.dest)
    (hinf : ¬ (afterRemovals t failed).distance a p.dest < infiniteCost) : n.forward p = [] := by
  have hab : p.dest ≠ a := by
    intro heq
    rw [heq, distance_afterRemovals_self ha.1 ha.2] at hinf
    exact hinf (by decide)
  have hnone : (afterRemovals t failed).nextHop a p.dest = none := by
    apply Option.not_isSome_iff_eq_none.1
    rw [isSome_nextHop_iff (by rw [topology_afterRemovals]; exact ha.1)
      (by rw [topology_afterRemovals]; exact hp.1) (Ne.symm hab)]
    exact hinf
  rw [h.forward_eq ha.2 hp.1 hab, hnone]
  rfl

end NetworkNode

namespace LinkState

variable {t : Topology} {me : NodeId} {updates updates' : List (NodeId × RouteUpdate)}

/-- Nodes that have been told of the same failures have the same paths. -/
theorem paths_eq_of_named (slots slots' : Nat)
    (hsame : ∀ x ∈ t.nodeIds, x ≠ me → (x ∈ named updates ↔ x ∈ named updates')) :
    ((start t me slots).afterUpdates updates).graph.paths =
      ((start t me slots').afterUpdates updates').graph.paths := by
  -- both have the paths that are left after the failures that the second one knows of
  have hme : me ∉ (named updates').filter (· != me) := by simp
  rw [paths_of_named slots hme, paths_of_named slots' hme]
  · intro x hx hne
    rw [List.mem_filter, bne_iff_ne]
    exact ⟨fun hmem => ⟨hmem, hne⟩, And.left⟩
  · intro x hx hne
    rw [hsame x hx hne, List.mem_filter, bne_iff_ne]
    exact ⟨fun hmem => ⟨hmem, hne⟩, And.left⟩

theorem dest_of_mem_routes {slots : Nat} {r : Route}
    (hr : r ∈ ((start t me slots).afterUpdates updates).routes.routes) :
    r.dest ∈ t.nodeIds ∧ r.dest ≠ me := by
  have hcurrent := current_afterUpdates t me slots updates
  have hnext := (RoutingTable.mem_routes_iff_next? hcurrent.tidy).1 hr
  rw [hcurrent.next?_eq] at hnext
  by_contra hout
  rw [if_neg hout] at hnext
  cases hnext

end LinkState

open NetworkNode

/-- **Link-state routing only depends on the set of failures.**  Nodes that have been told of the
same failures of other nodes of the topology have the same paths and list the same routes, whatever
the number of buckets.  After every update the routes of a node are the first steps of its paths,
and there are none to the node itself or to numbers outside the topology.  When all live nodes have
heard of the same failures, a packet from one to another one that is in reach travels over live
nodes and links between them, in fewer hops than there are nodes, and is handed to the transport
layer there; a packet for a node out of reach is not sent. -/
theorem LinkState.determined_by_failures (t : Topology) :
    (∀ me slots slots' updates updates',
      (∀ x ∈ t.nodeIds, x ≠ me → (x ∈ named updates ↔ x ∈ named updates')) →
      ((start t me slots).afterUpdates updates).graph.paths =
          ((start t me slots').afterUpdates updates').graph.paths ∧
        ((start t me slots).afterUpdates updates).routes.routes =
          ((start t me slots').afterUpdates updates').routes.routes) ∧
    (∀ me slots updates,
      (∀ d ∈ t.nodeIds, d ≠ me → ((start t me slots).afterUpdates updates).routes.next? d =
        ((start t me slots).afterUpdates updates).graph.nextHop me d) ∧
      ∀ r ∈ ((start t me slots).afterUpdates updates).routes.routes,
        r.dest ∈ t.nodeIds ∧ r.dest ≠ me) ∧
    ∀ (failed : List NodeId) (node : NodeId → NetworkNode),
      (∀ v, t.Alive failed v → Informed t failed v (node v)) →
      ∀ a b p, t.Alive failed a → t.Alive failed b → p.dest = b →
        ((afterRemovals t failed).distance a b < infiniteCost →
          ∃ stops, Travels node p a stops b ∧ stops.length ≤ t.nodeIds.length - 1 ∧
            t.Walk failed a stops b ((afterRemovals t failed).distance a b).toNat ∧
            (node b).forward p = (node b).localDelivery p) ∧
        (¬ (afterRemovals t failed).distance a b < infiniteCost → (node a).forward p = []) := by
  refine ⟨?_, ?_, ?_⟩
  · intro me slots slots' updates updates' hsame
    have hpaths := paths_eq_of_named slots slots' hsame
    exact ⟨hpaths, routes_eq_of_paths (current_afterUpdates t me slots updates)
      (current_afterUpdates t me slots' updates') hpaths⟩
  · intro me slots updates
    refine ⟨?_, fun r hr => dest_of_mem_routes hr⟩
    intro d hd hne
    rw [(current_afterUpdates t me slots updates).next?_eq, if_pos ⟨hd, hne⟩]
  · intro failed node hnode a b p ha hb hp
    subst hp
    exact ⟨exists_travels hnode ha hb, (hnode a ha).forward_eq_nil ha hb⟩

/-! ### Failures in the chorded line -/

/-- A node of the chorded line that has been told of some failures by the failing nodes' neighbors,
and to which a transport layer is attached. -/
def NetworkNode.told (failed : List NodeId) (v : NodeId) : NetworkNode where
  me := v
  router := .linkState ((LinkState.start Topology.chordedLine v 10).afterUpdates
    (failed.map fun x => (hopCeil, RouteUpdate.failure x)))
  transport := some []

theorem NetworkNode.informed_told (failed : List NodeId) (v : NodeId) :
    Informed Topology.chordedLine failed v (told failed v) := by
  refine ⟨rfl, 10, _, rfl, ?_⟩
  intro x _ _
  have hnamed : named (failed.map fun x => (hopCeil, RouteUpdate.failure x)) = failed := by
    induction failed with
    | nil => rfl
    | cons y failed ih =>
      rw [List.map_cons, named_cons, ih]
      rfl
  rw [hnamed]

/-- Without its second node, a packet crosses the chorded line the other way around; without its
fourth one too, it is not sent.  It makes no difference that a node is told twice, or of itself. -/
theorem LinkState.determined_by_failures_chordedLine :
    ((LinkState.start Topology.chordedLine 1 10).afterUpdates
        [(2, RouteUpdate.failure 2), (1021, RouteUpdate.failure 2), (4, RouteUpdate.failure 1),
          (4, RouteUpdate.failure 9)]).routes.routes =
        ((LinkState.start Topology.chordedLine 1 3).afterUpdates
          [(2, RouteUpdate.failure 2)]).routes.routes ∧
      (∃ stops, Travels (told [2]) (Packet.ofSegment 1 3 [7]) 1 stops 3 ∧ stops.length ≤ 3) ∧
      (told [4, 2] 1).forward (Packet.ofSegment 1 3 [7]) = [] := by
  obtain ⟨hsame, -, htravel⟩ := LinkState.determined_by_failures Topology.chordedLine
  refine ⟨?_, ?_, ?_⟩
  · have hall : Topology.chordedLine.nodeIds.all (fun x => x ≠ 1 →
        (x ∈ named [(2, RouteUpdate.failure 2), (1021, RouteUpdate.failure 2),
            (4, RouteUpdate.failure 1), (4, RouteUpdate.failure 9)] ↔
          x ∈ named [(2, RouteUpdate.failure 2)])) = true := by
      decide
    exact (hsame 1 10 3 _ _ fun x hx => of_decide_eq_true (List.all_eq_true.1 hall x hx)).2
  · obtain ⟨hreach, -⟩ := htravel [2] (told [2]) (fun v _ => informed_told [2] v) 1 3
      (Packet.ofSegment 1 3 [7]) (by decide) (by decide) rfl
    obtain ⟨stops, hstops, hlen, -, -⟩ := hreach (by decide)
    exact ⟨stops, hstops, hlen⟩
  · obtain ⟨-, hlost⟩ := htravel [4, 2] (told [4, 2]) (fun v _ => informed_told [4, 2] v) 1 3
      (Packet.ofSegment 1 3 [7]) (by decide) (by decide) rfl
    exact hlost (by decide)

end OverlayStack
