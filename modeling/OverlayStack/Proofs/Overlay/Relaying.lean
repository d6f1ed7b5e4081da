import OverlayStack.Proofs.Routing.Encapsulation
import OverlayStack.Proofs.Wire.Accepted

/-!
# What an overlay node relays

A node of the overlay reads the streams of its neighbors and of its network layer, all at once.
What arrives on one stream is relayed as far as its frames are complete, and what arrives on the
others in between does not matter.  So each stream can be looked at alone: the network layer gets,
in one stream of whole frames, an interleaving of what each neighbor has sent, and behind that of a
neighbor that was lost, a notice of its failure; and each neighbor gets what the network layer has
sent to it or to all, and when the network layer is lost, a notice of that.

The order of the events is arbitrary and a piece that arrives may be a single byte, so that
everything that listeners can do at the same time is a list of events.

## Main definitions

* `OverlayEvent`, `OverlayNode.run` — what happens to a node, and what it sends.
* `OverlayNode.Reached` — the nodes that can be reached.
* `OverlayNode.heard`, `OverlayNode.loses`, `OverlayEvent.told` — what arrives on a stream, and
  whether it ends.
* `OverlayNode.Settled` — all that can be read was read.
* `OverlayNode.inwardAll` — the packets for the network layer, and where each is from.
* `OverlayNode.addressed` — the packets for a neighbor.

## Main results

* `OverlayNode.sent_inwardAll`, `OverlayNode.Settled.packetsFrom_inwardAll` — what the network layer
  gets, and which of it is from a neighbor.
* `OverlayNode.Settled.sent_outwardAll` — what a neighbor gets.
* `OverlayNode.Reached.relays` — all of this for a node that can be reached.
-/

namespace OverlayStack

open OverlayStack.Frame (accepted message? readAvailable)

/-- What can happen to an overlay node while its network layer is connected. -/
inductive OverlayEvent where
  /-- There is a link to a neighbor. -/
  | attach (id : NodeId)
  /-- Bytes arrive from a neighbor. -/
  | fromNeighbor (id : NodeId) (bs : Bytes)
  /-- The stream of a neighbor ends. -/
  | lost (id : NodeId)
  /-- Bytes arrive from the network layer. -/
  | fromNetwork (bs : Bytes)

/-- What arrives from the network layer in some events. -/
def OverlayEvent.told (events : List OverlayEvent) : Bytes :=
  events.flatMap fun
    | fromNetwork bs => bs
    | _ => []

namespace OverlayNode

/-- The link to a neighbor. -/
def link? (o : OverlayNode) (id : NodeId) : Option NeighborLink :=
  (o.neighbors.find? id).bind (·.link)

/-- What has arrived of an unfinished frame from a neighbor. -/
def unread (o : OverlayNode) (id : NodeId) : Bytes :=
  (o.link? id).elim [] (·.unread)

/-- The node after something has happened, and what it sends.  Only a link that there is ends. -/
def happen (o : OverlayNode) : OverlayEvent → OverlayNode × List OverlayOutput
  | .attach id => (o.attach id, [])
  | .fromNeighbor id bs => o.fromNeighbor id bs
  | .lost id => if (o.link? id).isSome then o.loseNeighbor id else (o, [])
  | .fromNetwork bs => o.fromNetwork bs

/-- The node after some events, and what it sends. -/
def run : OverlayNode → List OverlayEvent → OverlayNode × List OverlayOutput
  | o, [] => (o, [])
  | o, e :: events =>
    let (o, sent) := o.happen e
    let (o, more) := o.run events
    (o, sent ++ more)

/-- What arrives from a neighbor that has a link. -/
def hears (o : OverlayNode) (id : NodeId) : OverlayEvent → Bytes
  | .fromNeighbor source bs => if source = id ∧ (o.link? id).isSome then bs else []
  | _ => []

/-- What arrives from a neighbor in some events. -/
def heard (id : NodeId) : OverlayNode → List OverlayEvent → Bytes
  | _, [] => []
  | o, e :: events => o.hears id e ++ heard id (o.happen e).1 events

/-- Whether the stream of a neighbor that has a link ends. -/
def ends (o : OverlayNode) (id : NodeId) : OverlayEvent → Bool
  | .lost source => source == id && (o.link? id).isSome
  | _ => false

/-- Whether the stream of a neighbor ends in some events. -/
def loses (id : NodeId) : OverlayNode → List OverlayEvent → Bool
  | _, [] => false
  | o, e :: events => o.ends id e || loses id (o.happen e).1 events

/-- The nodes that can be reached: a node of a topology, to which things happen while network layers
come and go. -/
inductive Reached : OverlayNode → Prop where
  | start {t : Topology} {me : NodeId} {o : OverlayNode} (h : start t me = .ok o) : Reached o
  | happen {o : OverlayNode} (h : Reached o) (e : OverlayEvent) : Reached (o.happen e).1
  | connectNetwork {o : OverlayNode} (h : Reached o) : Reached o.connectNetwork
  | loseNetwork {o : OverlayNode} (h : Reached o) : Reached o.loseNetwork.1

/-- All that can be read of what has arrived was read, and no neighbor has hung up unheard. -/
structure Settled (o : OverlayNode) : Prop where
  up : ∀ id l, o.link? id = some l → l.hungUp = false
  heard : ∀ id, accepted Packet false (o.unread id) = []
  told : ∀ unread, o.network = some unread → accepted Packet true unread = []

/-! ### What a node relays -/

/-- What is done for each read is done for the messages that the reads accept. -/
theorem flatMap_message? {ω : Type} {f : Except FrameError (Option NodeId × Bytes) → List ω}
    {g : Option NodeId × Packet → List ω} (h : ∀ read, f read = (message? Packet read).elim [] g)
    (reads : List (Except FrameError (Option NodeId × Bytes))) :
    reads.flatMap f = (reads.filterMap (message? Packet)).flatMap g := by
  induction reads with
  | nil => rfl
  | cons read reads ih =>
    rw [List.flatMap_cons, h, ih]
    cases hread : message? Packet read with
    | none => rw [List.filterMap_cons_none hread]; rfl
    | some x => rw [List.filterMap_cons_some hread, List.flatMap_cons]; rfl

/-- What a node sends for a packet from the network layer. -/
def sendOn (o : OverlayNode) : Option NodeId × Packet → List OverlayOutput
  | (some next, p) => o.toNext next p
  | (none, _) => []

variable {o : OverlayNode} {id j : NodeId}

/-- Bytes from a neighbor. -/
theorem fromNeighbor_eq {l : NeighborLink} (h : o.link? id = some l) (bs : Bytes) :
    o.fromNeighbor id bs =
      ({ o with neighbors := o.neighbors.modify id fun n =>
          { n with link := some { l with
            unread := (readAvailable Packet false (l.unread ++ bs)).2 } } },
        (accepted Packet false (l.unread ++ bs)).flatMap fun x => o.toNetwork x.2) := by
  have hreads := flatMap_message? (f := o.relayInward) (g := fun x => o.toNetwork x.2)
    (fun read => by
      rw [relayInward, message?]
      cases Frame.decoded Packet read <;> rfl)
    (readAvailable Packet false (l.unread ++ bs)).1
  rw [Frame.filterMap_readAvailable] at hreads
  unfold link? at h
  rw [fromNeighbor, h, ← hreads]

/-- Bytes from the network layer. -/
theorem fromNetwork_eq {unread : Bytes} (h : o.network = some unread) (bs : Bytes) :
    o.fromNetwork bs =
      ({ o with network := some (readAvailable Packet true (unread ++ bs)).2 },
        (accepted Packet true (unread ++ bs)).flatMap o.sendOn) := by
  have hreads := flatMap_message? (f := o.relayOutward) (g := o.sendOn)
    (fun read => by
      rw [relayOutward, message?]
      cases Frame.decoded Packet read with
      | error e => rfl
      | ok x =>
        obtain ⟨node, p⟩ := x
        cases node <;> rfl)
    (readAvailable Packet true (unread ++ bs)).1
  rw [Frame.filterMap_readAvailable] at hreads
  rw [fromNetwork, h, ← hreads]

/-! ### Links -/

theorem link?_attach (o : OverlayNode) (id j : NodeId) :
    (o.attach id).link? j =
      if j = id ∧ o.neighbors.canAttach id = true then some {} else o.link? j := by
  unfold link? attach NeighborTable.attach
  by_cases hcan : o.neighbors.canAttach id = true
  · simp only [hcan, if_true, and_true, NodeMap.find?_modify]
    split
    · next hj =>
      subst hj
      unfold NeighborTable.canAttach at hcan
      cases hfind : o.neighbors.find? j with
      | none => rw [hfind] at hcan; cases hcan
      | some n => rfl
    · rfl
  · simp only [hcan, and_false, if_false, Bool.false_eq_true]

theorem link?_eq_none_of_canAttach (h : o.neighbors.canAttach id = true) : o.link? id = none := by
  unfold NeighborTable.canAttach at h
  unfold link?
  cases hfind : o.neighbors.find? id with
  | none => rfl
  | some n =>
    rw [hfind] at h
    simpa [Neighbor.isConnected] using h

theorem unread_attach (o : OverlayNode) (id j : NodeId) : (o.attach id).unread j = o.unread j := by
  unfold unread
  rw [link?_attach]
  split
  · next h => rw [h.1, link?_eq_none_of_canAttach h.2]; rfl
  · rfl

theorem link?_fromNeighbor {l : NeighborLink} (h : o.link? id = some l) (bs : Bytes) (j : NodeId) :
    (o.fromNeighbor id bs).1.link? j =
      if j = id then some { l with unread := (readAvailable Packet false (l.unread ++ bs)).2 }
      else o.link? j := by
  rw [fromNeighbor_eq h]
  unfold link? at h ⊢
  obtain ⟨n, hfind, -⟩ := Option.bind_eq_some_iff.1 h
  simp only [NodeMap.find?_modify]
  split
  · next hj => rw [hj, hfind]; rfl
  · rfl

theorem fromNeighbor_of_none (h : o.link? id = none) (bs : Bytes) :
    o.fromNeighbor id bs = (o, []) := by
  unfold link? at h
  rw [fromNeighbor, h]

theorem link?_loseNeighbor (o : OverlayNode) (id j : NodeId) :
    (o.loseNeighbor id).1.link? j = if j = id then none else o.link? j := by
  unfold link? loseNeighbor NeighborTable.remove
  rw [NodeMap.find?_erase]
  split <;> rfl

theorem fromNetwork_of_none (h : o.network = none) (bs : Bytes) : o.fromNetwork bs = (o, []) := by
  rw [fromNetwork, h]

theorem link?_fromNetwork (o : OverlayNode) (bs : Bytes) (j : NodeId) :
    (o.fromNetwork bs).1.link? j = o.link? j := by
  rw [fromNetwork]
  split <;> rfl

theorem unread_fromNeighbor {l : NeighborLink} (h : o.link? id = some l) (bs : Bytes) (j : NodeId) :
    (o.fromNeighbor id bs).1.unread j =
      if j = id then (readAvailable Packet false (l.unread ++ bs)).2 else o.unread j := by
  unfold unread
  rw [link?_fromNeighbor h]
  split <;> rfl

theorem unread_loseNeighbor (o : OverlayNode) (id j : NodeId) :
    (o.loseNeighbor id).1.unread j = if j = id then [] else o.unread j := by
  unfold unread
  rw [link?_loseNeighbor]
  split <;> rfl

theorem unread_eq {l : NeighborLink} (h : o.link? id = some l) : o.unread id = l.unread := by
  rw [unread, h]
  rfl

/-- **What can happen**: a neighbor changes or is removed, or the network layer is heard. -/
theorem happen_cases (o : OverlayNode) (e : OverlayEvent) :
    (o.happen e).1 = o ∨
      (∃ id f, (o.happen e).1 = { o with neighbors := o.neighbors.modify id f }) ∨
      (∃ id, (o.happen e).1 = { o with neighbors := o.neighbors.erase id }) ∨
      ∃ u u', o.network = some u ∧ (o.happen e).1 = { o with network := some u' } := by
  cases e with
  | attach id =>
    rw [happen, attach, NeighborTable.attach]
    split
    · exact .inr (.inl ⟨_, _, rfl⟩)
    · exact .inl rfl
  | fromNeighbor id bs =>
    rw [happen]
    cases hid : o.link? id with
    | none => rw [fromNeighbor_of_none hid]; exact .inl rfl
    | some l => rw [fromNeighbor_eq hid]; exact .inr (.inl ⟨_, _, rfl⟩)
  | lost id =>
    rw [happen]
    split
    · exact .inr (.inr (.inl ⟨id, rfl⟩))
    · exact .inl rfl
  | fromNetwork bs =>
    rw [happen]
    cases hnetwork : o.network with
    | none => rw [fromNetwork_of_none hnetwork]; exact .inl rfl
    | some u => rw [fromNetwork_eq hnetwork]; exact .inr (.inr (.inr ⟨u, _, rfl, rfl⟩))

/-- The number of a node does not change. -/
theorem me_happen (o : OverlayNode) (e : OverlayEvent) : (o.happen e).1.me = o.me := by
  rcases o.happen_cases e with h | ⟨id, f, h⟩ | ⟨id, h⟩ | ⟨u, u', -, h⟩ <;> rw [h]

/-- The network layer stays connected. -/
theorem exists_network_happen {u : Bytes} (hnetwork : o.network = some u) (e : OverlayEvent) :
    ∃ u', (o.happen e).1.network = some u' := by
  rcases o.happen_cases e with h | ⟨id, f, h⟩ | ⟨id, h⟩ | ⟨u, u', -, h⟩
  · exact ⟨u, by rw [h, hnetwork]⟩
  · exact ⟨u, by rw [h, hnetwork]⟩
  · exact ⟨u, by rw [h, hnetwork]⟩
  · exact ⟨u', by rw [h]⟩

/-- A neighbor that was removed does not come back. -/
theorem find?_happen_of_none (hnone : o.neighbors.find? j = none) (e : OverlayEvent) :
    (o.happen e).1.neighbors.find? j = none := by
  rcases o.happen_cases e with h | ⟨id, f, h⟩ | ⟨id, h⟩ | ⟨u, u', -, h⟩
  · rw [h, hnone]
  · rw [h, NodeMap.find?_modify, hnone, Option.map_none, ite_self]
  · rw [h, NodeMap.find?_erase, hnone, ite_self]
  · rw [h]
    exact hnone

/-! ### Nodes that have read all they can -/

theorem Settled.attach (h : o.Settled) (id : NodeId) : (o.attach id).Settled where
  up j l hlink := by
    rw [link?_attach] at hlink
    split at hlink
    · cases hlink; rfl
    · exact h.up j l hlink
  heard j := by
    rw [unread_attach]
    exact h.heard j
  told := h.told

theorem Settled.fromNeighbor (h : o.Settled) (id : NodeId) (bs : Bytes) :
    (o.fromNeighbor id bs).1.Settled := by
  cases hid : o.link? id with
  | none => rwa [fromNeighbor_of_none hid]
  | some l =>
    refine ⟨fun j k hlink => ?_, fun j => ?_, ?_⟩
    · rw [link?_fromNeighbor hid] at hlink
      split at hlink
      · cases hlink
        exact h.up id l hid
      · exact h.up j k hlink
    · rw [unread_fromNeighbor hid]
      split
      · exact Frame.accepted_rest _
      · exact h.heard j
    · rw [fromNeighbor_eq hid]
      exact h.told

theorem Settled.loseNeighbor (h : o.Settled) (id : NodeId) : (o.loseNeighbor id).1.Settled where
  up j l hlink := by
    rw [link?_loseNeighbor] at hlink
    split at hlink
    · cases hlink
    · exact h.up j l hlink
  heard j := by
    rw [unread_loseNeighbor]
    split
    · exact Frame.accepted_nil
    · exact h.heard j
  told := h.told

theorem Settled.fromNetwork (h : o.Settled) (bs : Bytes) : (o.fromNetwork bs).1.Settled := by
  refine ⟨fun j l hlink => ?_, fun j => ?_, ?_⟩
  · rw [link?_fromNetwork] at hlink
    exact h.up j l hlink
  · rw [unread, link?_fromNetwork]
    exact h.heard j
  · cases hnetwork : o.network with
    | none => rw [fromNetwork_of_none hnetwork]; exact h.told
    | some u =>
      rw [fromNetwork_eq hnetwork]
      rintro _ ⟨⟩
      exact Frame.accepted_rest _

/-- **All that can be read is read** whenever something happens. -/
theorem Settled.happen (h : o.Settled) (e : OverlayEvent) : (o.happen e).1.Settled := by
  cases e with
  | attach id => exact h.attach id
  | fromNeighbor id bs => exact h.fromNeighbor id bs
  | lost id =>
    rw [OverlayNode.happen]
    split
    · exact h.loseNeighbor id
    · exact h
  | fromNetwork bs => exact h.fromNetwork bs

/-- A node that can be reached has read all that it can. -/
theorem Reached.settled (h : o.Reached) : o.Settled := by
  induction h with
  | @start t me o hstart =>
    have hlink : ∀ id, o.link? id = none := by
      intro id
      unfold OverlayNode.start at hstart
      split at hstart
      · cases hstart
      · cases hstart
        unfold link?
        rw [NeighborTable.start, NodeMap.find?_map, Option.bind_map]
        exact Option.bind_fun_none _
    have hnetwork : o.network = none := by
      unfold OverlayNode.start at hstart
      split at hstart <;> cases hstart
      rfl
    refine ⟨fun id l hl => ?_, fun id => ?_, fun u hu => ?_⟩
    · rw [hlink] at hl
      cases hl
    · rw [unread, hlink]
      exact Frame.accepted_nil
    · rw [hnetwork] at hu
      cases hu
  | happen _ e ih => exact ih.happen e
  | connectNetwork _ ih =>
    refine ⟨ih.up, ih.heard, ?_⟩
    rintro _ ⟨⟩
    exact Frame.accepted_nil
  | loseNetwork _ ih => exact ⟨ih.up, ih.heard, fun _ hu => by cases hu⟩

/-! ### To the network layer -/

/-- What a node puts on the stream to the network layer: packets, and the neighbors that they are
from. -/
def inward (o : OverlayNode) : OverlayEvent → List (NodeId × Packet)
  | .fromNeighbor id bs =>
    match o.link? id with
    | some l => (accepted Packet false (l.unread ++ bs)).map fun x => (id, x.2)
    | none => []
  | .lost id => if (o.link? id).isSome then [(id, Packet.failureNotice id)] else []
  | _ => []

/-- What a node puts on the stream to the network layer in some events. -/
def inwardAll : OverlayNode → List OverlayEvent → List (NodeId × Packet)
  | _, [] => []
  | o, e :: events => o.inward e ++ inwardAll (o.happen e).1 events

/-- The packets that are from a neighbor. -/
def packetsFrom (j : NodeId) (tagged : List (NodeId × Packet)) : List Packet :=
  (tagged.filter fun x => x.1 = j).map (·.2)

theorem packetsFrom_append (j : NodeId) (front back : List (NodeId × Packet)) :
    packetsFrom j (front ++ back) = packetsFrom j front ++ packetsFrom j back := by
  rw [packetsFrom, List.filter_append, List.map_append]
  rfl

theorem packetsFrom_map (id j : NodeId) (xs : List (Option NodeId × Packet)) :
    packetsFrom j (xs.map fun x => (id, x.2)) = if id = j then xs.map (·.2) else [] := by
  unfold packetsFrom
  rw [List.filter_map, List.map_map]
  split
  · next hid => simp [Function.comp_def, hid]
  · next hid => simp [Function.comp_def, hid]

theorem toNetwork?_toAll (o : OverlayNode) (p : Packet) :
    (o.toAll p).filterMap (·.toNetwork?) = [] := by
  rw [toAll, List.filterMap_map]
  exact List.filterMap_eq_nil_iff.2 fun _ _ => rfl

theorem toNetwork?_sendOn (o : OverlayNode) (x : Option NodeId × Packet) :
    (o.sendOn x).filterMap (·.toNetwork?) = [] := by
  obtain ⟨node, p⟩ := x
  cases node with
  | none => rfl
  | some next =>
    rw [sendOn, toNext]
    split
    · exact toNetwork?_toAll o p
    · split <;> rfl

theorem toNetwork_of_connected {u : Bytes} (h : o.network = some u) (p : Packet) :
    o.toNetwork p = [.toNetwork (Frame.write none p)] := by
  rw [toNetwork, h]
  rfl

/-- **Whole frames** are put on the stream to the network layer. -/
theorem sent_inward {u : Bytes} (hnetwork : o.network = some u) (e : OverlayEvent) :
    ((o.happen e).2.filterMap (·.toNetwork?)).flatten =
      (o.inward e).flatMap fun x => Frame.write none x.2 := by
  cases e with
  | attach id => rfl
  | fromNeighbor id bs =>
    rw [happen, inward]
    cases hid : o.link? id with
    | none => rw [fromNeighbor_of_none hid]; rfl
    | some l =>
      rw [fromNeighbor_eq hid]
      dsimp only
      rw [flatMap_eq_map fun x _ => toNetwork_of_connected hnetwork x.2, List.flatMap_map]
      exact flatten_filterMap_map (by exact fun _ => rfl) _
  | lost id =>
    rw [happen, inward]
    split
    · rw [loseNeighbor, toNetwork_of_connected hnetwork]
      rfl
    · rfl
  | fromNetwork bs =>
    rw [happen, fromNetwork_eq hnetwork, show o.inward (.fromNetwork bs) = [] from rfl]
    dsimp only
    rw [List.filterMap_flatMap, List.flatMap_eq_nil_iff.2 fun x _ => toNetwork?_sendOn o x]
    rfl

/-- **Whole frames** are put on the stream to the network layer, whatever happens. -/
theorem sent_inwardAll {u : Bytes} (hnetwork : o.network = some u) (events : List OverlayEvent) :
    ((o.run events).2.filterMap (·.toNetwork?)).flatten =
      (o.inwardAll events).flatMap fun x => Frame.write none x.2 := by
  induction events generalizing o u with
  | nil => rfl
  | cons e events ih =>
    obtain ⟨u', hnext⟩ := exists_network_happen hnetwork e
    rw [run, inwardAll, List.flatMap_append]
    dsimp only
    rw [List.filterMap_append, List.flatten_append, sent_inward hnetwork, ih hnext]

/-- What is put on the stream to the network layer can be read. -/
theorem sound_of_mem_inward {e : OverlayEvent} {x : NodeId × Packet} (h : x ∈ o.inward e) :
    Message.Faithful.Sound x.2 := by
  cases e with
  | attach id => cases h
  | fromNeighbor id bs =>
    rw [inward] at h
    split at h
    · obtain ⟨⟨node, p⟩, hmem, rfl⟩ := List.mem_map.1 h
      exact Frame.sound_of_mem_accepted hmem
    · cases h
  | lost id =>
    rw [inward] at h
    split at h
    · obtain rfl := List.mem_singleton.1 h
      exact Packet.sound_failureNotice id
    · cases h
  | fromNetwork bs => cases h

theorem sound_of_mem_inwardAll {events : List OverlayEvent} {x : NodeId × Packet}
    (h : x ∈ o.inwardAll events) : Message.Faithful.Sound x.2 := by
  induction events generalizing o with
  | nil => cases h
  | cons e events ih =>
    rw [inwardAll] at h
    exact (List.mem_append.1 h).elim sound_of_mem_inward ih

/-! ### From one neighbor -/

/-- A neighbor that is gone stays away: it is not heard, and its stream does not end again. -/
theorem gone_of_find? (h : o.neighbors.find? j = none) (events : List OverlayEvent) :
    heard j o events = [] ∧ loses j o events = false ∧
      (o.run events).1.neighbors.find? j = none := by
  induction events generalizing o with
  | nil => exact ⟨rfl, rfl, h⟩
  | cons e events ih =>
    have hlink : o.link? j = none := by
      rw [link?, h]
      rfl
    obtain ⟨hheard, hloses, hgone⟩ := ih (find?_happen_of_none h e)
    rw [heard, hheard, List.append_nil, loses, hloses, Bool.or_false]
    refine ⟨?_, ?_, hgone⟩
    · cases e with
      | fromNeighbor id bs => rw [hears, hlink, if_neg fun hh => by cases hh.2]
      | _ => rfl
    · cases e with
      | lost id => rw [ends, hlink, Option.isSome_none, Bool.and_false]
      | _ => rfl

theorem unread_of_find? (h : o.neighbors.find? j = none) : o.unread j = [] := by
  rw [unread, link?, h]
  rfl

/-- When the stream of a neighbor ends, the neighbor is removed, and reported. -/
theorem happen_of_ends {e : OverlayEvent} (h : o.ends j e = true) :
    (o.happen e).1.neighbors.find? j = none ∧ o.hears j e = [] ∧
      packetsFrom j (o.inward e) = [Packet.failureNotice j] := by
  cases e with
  | lost id =>
    rw [ends, Bool.and_eq_true, beq_iff_eq] at h
    obtain ⟨rfl, hlink⟩ := h
    refine ⟨?_, rfl, ?_⟩
    · rw [happen, if_pos hlink, loseNeighbor, NeighborTable.remove, NodeMap.find?_erase, if_pos rfl]
    · rw [inward, if_pos hlink]
      simp [packetsFrom]
  | _ => cases h

/-- **One event**: until the stream of a neighbor ends, what arrives from it is relayed or kept. -/
theorem packetsFrom_inward {e : OverlayEvent} (h : o.ends j e = false) (more : Bytes) :
    packetsFrom j (o.inward e) ++
        (accepted Packet false ((o.happen e).1.unread j ++ more)).map (·.2) =
      (accepted Packet false (o.unread j ++ (o.hears j e ++ more))).map (·.2) := by
  cases e with
  | attach id =>
    rw [happen, unread_attach]
    rfl
  | fromNeighbor id bs =>
    rw [happen, inward, hears]
    cases hid : o.link? id with
    | none =>
      rw [fromNeighbor_of_none hid]
      by_cases hj : id = j
      · subst hj; simp [hid, packetsFrom]
      · simp [hj, packetsFrom]
    | some l =>
      rw [unread_fromNeighbor hid]
      dsimp only
      rw [packetsFrom_map]
      by_cases hj : id = j
      · subst hj
        simp only [if_true, hid, Option.isSome_some, and_self]
        rw [← List.map_append, ← Frame.accepted_append, unread_eq hid, List.append_assoc]
      · rw [if_neg hj, if_neg (Ne.symm hj), if_neg fun hh => hj hh.1]
        rfl
  | lost id =>
    rw [happen, inward, show o.hears j (.lost id) = [] from rfl]
    split
    · next hlink =>
      have hne : id ≠ j := by
        rintro rfl
        rw [ends, hlink, Bool.and_true, beq_self_eq_true] at h
        cases h
      rw [unread_loseNeighbor, if_neg (Ne.symm hne)]
      simp [packetsFrom, hne]
    · rfl
  | fromNetwork bs =>
    rw [happen, unread, link?_fromNetwork]
    rfl

/-- **What the network layer gets from a neighbor**: the packets in what arrives from it, and when
its stream has ended, a notice of its failure. -/
theorem Settled.packetsFrom_inwardAll (h : o.Settled) (events : List OverlayEvent) (j : NodeId) :
    packetsFrom j (o.inwardAll events) =
      (accepted Packet false (o.unread j ++ OverlayNode.heard j o events)).map (·.2) ++
        if loses j o events = true then [Packet.failureNotice j] else [] := by
  induction events generalizing o with
  | nil =>
    rw [OverlayNode.heard, List.append_nil, h.heard]
    rfl
  | cons e events ih =>
    rw [inwardAll, packetsFrom_append, ih (h.happen e), OverlayNode.heard, loses]
    cases hends : o.ends j e with
    | false => rw [← List.append_assoc, packetsFrom_inward hends, Bool.false_or]
    | true =>
      -- nothing was left to read, and nothing comes afterwards
      obtain ⟨hgone, hhears, hnotice⟩ := happen_of_ends hends
      obtain ⟨hheard, hloses, -⟩ := gone_of_find? hgone events
      rw [hnotice, hhears, hheard, hloses, unread_of_find? hgone, List.append_nil, List.append_nil,
        h.heard, Frame.accepted_nil]
      rfl

/-- **A neighbor whose stream has ended is gone** from the table. -/
theorem find?_run_of_loses {events : List OverlayEvent} (h : loses j o events = true) :
    (o.run events).1.neighbors.find? j = none := by
  induction events generalizing o with
  | nil => cases h
  | cons e events ih =>
    rw [loses, Bool.or_eq_true] at h
    exact h.elim (fun hends => (gone_of_find? (happen_of_ends hends).1 events).2.2) ih

/-! ### To a neighbor -/

/-- The packets from the network layer that are to go to a neighbor, or to all. -/
def addressed (j : NodeId) (xs : List (Option NodeId × Packet)) : List Packet :=
  (xs.filter fun x => x.1 = some j ∨ x.1 = some broadcastId).map (·.2)

theorem addressed_append (j : NodeId) (front back : List (Option NodeId × Packet)) :
    addressed j (front ++ back) = addressed j front ++ addressed j back := by
  rw [addressed, List.filter_append, List.map_append]
  rfl

/-- There is a link to a neighbor that has not hung up. -/
def Reaches (o : OverlayNode) (j : NodeId) : Prop :=
  ∃ l, o.link? j = some l ∧ l.hungUp = false

theorem send_of_reaches (h : o.Reaches j) (p : Packet) :
    o.neighbors.send j p = .ok (Frame.write none p) := by
  obtain ⟨l, hlink, hup⟩ := h
  unfold link? at hlink
  simp only [NeighborTable.send, hlink, hup, Bool.false_eq_true, if_false]

theorem mem_connected_of_reaches (h : o.Reaches j) : j ∈ o.neighbors.connected := by
  obtain ⟨l, hlink, -⟩ := h
  obtain ⟨n, hfind, hn⟩ := Option.bind_eq_some_iff.1 hlink
  rw [NeighborTable.connected, NodeMap.mem_keys_iff, NodeMap.contains, NodeMap.find?_filter, hfind,
    Option.filter_some, if_pos (by rw [Neighbor.isConnected, hn]; rfl)]
  rfl

/-- A list without duplicates in which only one element counts. -/
theorem filterMap_eq_singleton {α β : Type} {f : α → Option β} {a : α} {b : β} {as : List α}
    (hnodup : as.Nodup) (hmem : a ∈ as) (ha : f a = some b) (h : ∀ x, x ≠ a → f x = none) :
    as.filterMap f = [b] := by
  obtain ⟨front, back, rfl⟩ := List.append_of_mem hmem
  obtain ⟨-, hback, hne⟩ := List.nodup_append.1 hnodup
  have hfront : front.filterMap f = [] :=
    List.filterMap_eq_nil_iff.2 fun x hx => h x (hne x hx a List.mem_cons_self)
  have hrest : back.filterMap f = [] :=
    List.filterMap_eq_nil_iff.2 fun x hx =>
      h x fun hxa => (List.nodup_cons.1 hback).1 (hxa ▸ hx)
  rw [List.filterMap_append, hfront, List.filterMap_cons_some ha, hrest, List.nil_append]

/-- What is sent to all is sent once to each. -/
theorem toNeighbor?_toAll (h : o.Reaches j) (p : Packet) :
    (o.toAll p).filterMap (·.toNeighbor? j) = [Frame.write none p] := by
  have hnodup : o.neighbors.connected.Nodup :=
    (NodeMap.pairwise_keys _).imp UInt32.ne_of_lt
  rw [toAll, NeighborTable.broadcast, List.filterMap_map, List.filterMap_filterMap]
  refine filterMap_eq_singleton hnodup (mem_connected_of_reaches h) ?_ fun id hid => ?_
  · rw [send_of_reaches h]
    exact if_pos rfl
  · cases o.neighbors.send id p with
    | error e => rfl
    | ok bs => exact if_neg hid

/-- **One packet**: a neighbor gets it if it is to go there, or to all. -/
theorem toNeighbor?_sendOn (h : o.Reaches j) (x : Option NodeId × Packet) :
    (o.sendOn x).filterMap (·.toNeighbor? j) = (addressed j [x]).map (Frame.write none) := by
  obtain ⟨node, p⟩ := x
  cases node with
  | none => rfl
  | some next =>
    rw [sendOn, toNext]
    by_cases hall : next = broadcastId
    · rw [if_pos hall, toNeighbor?_toAll h]
      simp [addressed, hall]
    · rw [if_neg hall]
      by_cases hnext : next = j
      · subst hnext
        rw [send_of_reaches h]
        simp [addressed, OverlayOutput.toNeighbor?]
      · have hnone : addressed j [(some next, p)] = [] := by simp [addressed, hall, hnext]
        rw [hnone]
        cases o.neighbors.send next p with
        | error e => rfl
        | ok bs => exact List.filterMap_cons_none (if_neg hnext)

theorem sent_sendOn (h : o.Reaches j) (xs : List (Option NodeId × Packet)) :
    ((xs.flatMap o.sendOn).filterMap (·.toNeighbor? j)).flatten =
      (addressed j xs).flatMap (Frame.write none) := by
  induction xs with
  | nil => rfl
  | cons x xs ih =>
    have hcons : addressed j (x :: xs) = addressed j [x] ++ addressed j xs :=
      addressed_append j [x] xs
    rw [List.flatMap_cons, List.filterMap_append, List.flatten_append, ih, toNeighbor?_sendOn h,
      hcons, List.flatMap_append]
    rfl

/-- What comes from a neighbor goes to none. -/
theorem toNeighbor?_toNetwork (o : OverlayNode) (p : Packet) :
    (o.toNetwork p).filterMap (·.toNeighbor? j) = [] := by
  rw [toNetwork]
  split <;> rfl

/-- A neighbor that can be reached can be reached until its stream ends. -/
theorem Reaches.happen (h : o.Reaches j) {e : OverlayEvent} (hends : o.ends j e = false) :
    (o.happen e).1.Reaches j := by
  obtain ⟨l, hlink, hup⟩ := h
  cases e with
  | attach id =>
    refine ⟨l, ?_, hup⟩
    rw [OverlayNode.happen, link?_attach, if_neg]
    · exact hlink
    · rintro ⟨rfl, hcan⟩
      rw [link?_eq_none_of_canAttach hcan] at hlink
      cases hlink
  | fromNeighbor id bs =>
    rw [OverlayNode.happen]
    cases hid : o.link? id with
    | none => rw [fromNeighbor_of_none hid]; exact ⟨l, hlink, hup⟩
    | some k =>
      unfold Reaches
      rw [link?_fromNeighbor hid]
      by_cases hj : j = id
      · subst hj
        obtain rfl := Option.some.inj (hlink.symm.trans hid)
        exact ⟨_, if_pos rfl, hup⟩
      · exact ⟨l, (if_neg hj).trans hlink, hup⟩
  | lost id =>
    rw [OverlayNode.happen]
    split
    · next hid =>
      have hne : j ≠ id := by
        rintro rfl
        rw [ends, hid, Bool.and_true, beq_self_eq_true] at hends
        cases hends
      exact ⟨l, by rw [link?_loseNeighbor, if_neg hne, hlink], hup⟩
    · exact ⟨l, hlink, hup⟩
  | fromNetwork bs => exact ⟨l, (link?_fromNetwork o bs j).trans hlink, hup⟩

theorem Reaches.run (h : o.Reaches j) {events : List OverlayEvent}
    (hloses : loses j o events = false) : (o.run events).1.Reaches j := by
  induction events generalizing o with
  | nil => exact h
  | cons e events ih =>
    rw [loses, Bool.or_eq_false_iff] at hloses
    exact ih (h.happen hloses.1) hloses.2

/-- **One event**: what arrives from the network layer goes to the neighbors or is kept. -/
theorem sent_outward {u : Bytes} (h : o.Reaches j) (hnetwork : o.network = some u)
    (e : OverlayEvent) :
    ∃ u', (o.happen e).1.network = some u' ∧ ∀ more : Bytes,
      ((o.happen e).2.filterMap (·.toNeighbor? j)).flatten ++
          (addressed j (accepted Packet true (u' ++ more))).flatMap (Frame.write none) =
        (addressed j (accepted Packet true (u ++ (OverlayEvent.told [e] ++ more)))).flatMap
          (Frame.write none) := by
  cases e with
  | attach id => exact ⟨u, hnetwork, fun _ => rfl⟩
  | fromNeighbor id bs =>
    rw [happen]
    cases hid : o.link? id with
    | none => rw [fromNeighbor_of_none hid]; exact ⟨u, hnetwork, fun _ => rfl⟩
    | some l =>
      rw [fromNeighbor_eq hid]
      refine ⟨u, hnetwork, fun more => ?_⟩
      dsimp only
      rw [List.filterMap_flatMap,
        List.flatMap_eq_nil_iff.2 fun x _ => toNeighbor?_toNetwork o x.2]
      rfl
  | lost id =>
    rw [happen]
    split
    · refine ⟨u, hnetwork, fun more => ?_⟩
      rw [loseNeighbor, toNeighbor?_toNetwork]
      rfl
    · exact ⟨u, hnetwork, fun _ => rfl⟩
  | fromNetwork bs =>
    rw [happen, fromNetwork_eq hnetwork]
    refine ⟨_, rfl, fun more => ?_⟩
    have htold : OverlayEvent.told [.fromNetwork bs] = bs := List.append_nil bs
    dsimp only
    rw [sent_sendOn h, ← List.flatMap_append, ← addressed_append, ← Frame.accepted_append, htold,
      List.append_assoc]

/-- **What a neighbor gets**: the packets from the network layer that are to go to it, or to all. -/
theorem Settled.sent_outwardAll {u : Bytes} (hsettled : o.Settled) (h : o.Reaches j)
    (hnetwork : o.network = some u) {events : List OverlayEvent}
    (hloses : loses j o events = false) :
    ((o.run events).2.filterMap (·.toNeighbor? j)).flatten =
      (addressed j (accepted Packet true (u ++ OverlayEvent.told events))).flatMap
        (Frame.write none) := by
  induction events generalizing o u with
  | nil =>
    rw [show OverlayEvent.told [] = [] from rfl, List.append_nil, hsettled.told u hnetwork]
    rfl
  | cons e events ih =>
    rw [loses, Bool.or_eq_false_iff] at hloses
    obtain ⟨u', hnext, hstep⟩ := sent_outward h hnetwork e
    have hrest := ih (hsettled.happen e) (h.happen hloses.1) hnext hloses.2
    have htold : OverlayEvent.told (e :: events) =
        OverlayEvent.told [e] ++ OverlayEvent.told events := by
      rw [OverlayEvent.told, ← List.singleton_append, List.flatMap_append]
      rfl
    rw [OverlayNode.run]
    dsimp only
    rw [List.filterMap_append, List.flatten_append, hrest, hstep, htold]

theorem me_run (o : OverlayNode) (events : List OverlayEvent) : (o.run events).1.me = o.me := by
  induction events generalizing o with
  | nil => rfl
  | cons e events ih => exact (ih (o.happen e).1).trans (me_happen o e)

/-! ### To all -/

/-- **The overlay is transparent**, in whatever order things happen to a node that can be reached.

1. The network layer gets whole frames, with packets from the neighbors.  From each neighbor it gets
   those that a reader accepts in what arrives from there, in this order, and when the stream of the
   neighbor has ended, one notice of its failure.
2. A neighbor whose stream has ended is gone from the table.
3. When the network layer is lost, a neighbor that has a link all the time has got those packets
   that are to go to it or to all, of those that a reader accepts in what arrives from the network
   layer, in this order, and one notice of the failure of this node.
4. A frame of which a reader accepts nothing can be left out of a stream. -/
theorem Reached.relays {u : Bytes} (hreached : o.Reached) (hnetwork : o.network = some u)
    (events : List OverlayEvent) :
    (∃ tagged : List (NodeId × Packet),
      ((o.run events).2.filterMap (·.toNetwork?)).flatten =
        tagged.flatMap (fun x => Frame.write none x.2) ∧
      (Frame.readAll Packet false ((o.run events).2.filterMap (·.toNetwork?)).flatten).map (·.1) =
        tagged.map (fun x => .ok (none, x.2)) ++ [.error (.closed .ended)] ∧
      ∀ n, (tagged.filter fun x => x.1 = n).map (·.2) =
        (accepted Packet false (o.unread n ++ heard n o events)).map (·.2) ++
          if loses n o events = true then [Packet.failureNotice n] else []) ∧
    (∀ n, loses n o events = true → (o.run events).1.neighbors.find? n = none) ∧
    (∀ j, (o.link? j).isSome → loses j o events = false →
      (Frame.readAll Packet false (((o.run events).2 ++ (o.run events).1.loseNetwork.2).filterMap
          (·.toNeighbor? j)).flatten).map (·.1) =
        (addressed j (accepted Packet true (u ++ OverlayEvent.told events)) ++
          [Packet.failureNotice o.me]).map (fun p => .ok (none, p)) ++
          [.error (.closed .ended)]) ∧
    ∀ {withNode : Bool} {front bad : Bytes}
      {result : Except FrameError (Option NodeId × Bytes)} (back : Bytes),
      (readAvailable Packet withNode front).2 = [] → Frame.Span Packet withNode bad result →
        message? Packet result = none →
        accepted Packet withNode (front ++ bad ++ back) =
          accepted Packet withNode (front ++ back) := by
  have hsettled := hreached.settled
  refine ⟨⟨o.inwardAll events, sent_inwardAll hnetwork events, ?_,
      hsettled.packetsFrom_inwardAll events⟩, fun n => find?_run_of_loses, ?_,
    fun back hfront hbad hnone => Frame.accepted_skip hfront hbad hnone back⟩
  · have hsound : ∀ p ∈ (o.inwardAll events).map (·.2), Message.Faithful.Sound p := by
      intro p hp
      obtain ⟨x, hx, rfl⟩ := List.mem_map.1 hp
      exact sound_of_mem_inwardAll hx
    have hread := Frame.map_fst_readAll_write none hsound
    rw [List.flatMap_map, List.map_map] at hread
    rw [sent_inwardAll hnetwork events]
    exact hread
  · intro j hlink hloses
    have hreaches : o.Reaches j := by
      obtain ⟨l, hl⟩ := Option.isSome_iff_exists.1 hlink
      exact ⟨l, hl, hsettled.up j l hl⟩
    have hsound : ∀ p ∈ addressed j (accepted Packet true (u ++ OverlayEvent.told events)) ++
        [Packet.failureNotice o.me], Message.Faithful.Sound p := by
      intro p hp
      rcases List.mem_append.1 hp with hp | hp
      · obtain ⟨x, hx, rfl⟩ := List.mem_map.1 hp
        exact Frame.sound_of_mem_accepted (List.mem_filter.1 hx).1
      · rw [List.mem_singleton.1 hp]
        exact Packet.sound_failureNotice o.me
    have hlast : ((o.run events).1.loseNetwork.2.filterMap (·.toNeighbor? j)).flatten =
        [Packet.failureNotice o.me].flatMap (Frame.write none) := by
      rw [OverlayNode.loseNetwork, toNeighbor?_toAll (hreaches.run hloses), me_run]
      rfl
    rw [List.filterMap_append, List.flatten_append,
      hsettled.sent_outwardAll hreaches hnetwork hloses, hlast, ← List.flatMap_append]
    exact Frame.map_fst_readAll_write none hsound

/-- Node 2 of the chorded line, before there are links. -/
def eastNode : OverlayNode where
  me := 2
  address := ⟨10, 0, 0, 2⟩
  neighbors := NeighborTable.start .chordedLine 2

theorem reached_eastNode : (eastNode.attach 3).connectNetwork.Reached := by
  have hstart : OverlayNode.start .chordedLine 2 = .ok eastNode := rfl
  exact .connectNetwork (.happen (.start hstart) (.attach 3))

/-- A packet that is followed by the start of a frame where the end of its own should be. -/
def misended : Bytes :=
  Frame.start ++ (Packet.failureNotice 5).wire ++ Frame.start

theorem span_misended : Frame.Span Packet false misended (.error (.badTrailer 0x21 0x26)) :=
  .badTrailer (i := ⟨[], none, (Packet.failureNotice 5).wire⟩) (Frame.Item.clean_nil none _)
    (Message.Faithful.fits (Packet.sound_failureNotice 5)) (by decide)

/-- Pieces from two neighbors and the network layer, while one neighbor comes and goes. -/
def mixedPieces : List OverlayEvent :=
  [.fromNeighbor 3 ((Frame.write none (Packet.failureNotice 9)).take 10),
    .attach 1,
    .fromNeighbor 1 (Frame.write none (Packet.failureNotice 7) ++ misended),
    .fromNetwork (Frame.write (some broadcastId) (Packet.failureNotice 8) ++
      Frame.write (some 1) (Packet.failureNotice 6)),
    .fromNeighbor 3 ((Frame.write none (Packet.failureNotice 9)).drop 10),
    .fromNeighbor 1 (Frame.write none (Packet.failureNotice 5) ++ Frame.start),
    .lost 1,
    .fromNetwork (Frame.write (some 3) (Packet.failureNotice 4))]

/-- The network layer gets what the two neighbors have sent, and is told that one is lost.  The
other one gets what is sent to it and to all.  The bad frame does not matter. -/
theorem relays_mixedPieces :
    (∃ tagged : List (NodeId × Packet),
      (Frame.readAll Packet false (((eastNode.attach 3).connectNetwork.run mixedPieces).2.filterMap
          (·.toNetwork?)).flatten).map (·.1) =
        tagged.map (fun x => .ok (none, x.2)) ++ [.error (.closed .ended)] ∧
      (tagged.filter fun x => x.1 = 1).map (·.2) =
        [Packet.failureNotice 7, Packet.failureNotice 5, Packet.failureNotice 1] ∧
      (tagged.filter fun x => x.1 = 3).map (·.2) = [Packet.failureNotice 9]) ∧
    ((eastNode.attach 3).connectNetwork.run mixedPieces).1.neighbors.find? 1 = none ∧
    (Frame.readAll Packet false ((((eastNode.attach 3).connectNetwork.run mixedPieces).2 ++
        ((eastNode.attach 3).connectNetwork.run mixedPieces).1.loseNetwork.2).filterMap
          (·.toNeighbor? 3)).flatten).map (·.1) =
      [.ok (none, Packet.failureNotice 8), .ok (none, Packet.failureNotice 4),
        .ok (none, Packet.failureNotice 2), .error (.closed .ended)] ∧
    ∀ back, accepted Packet false (Frame.write none (Packet.failureNotice 7) ++ misended ++ back) =
      accepted Packet false (Frame.write none (Packet.failureNotice 7) ++ back) := by
  obtain ⟨⟨tagged, -, hread, hfrom⟩, hgone, hto, hskip⟩ :=
    reached_eastNode.relays (u := []) rfl mixedPieces
  refine ⟨⟨tagged, hread, (hfrom 1).trans (by decide +kernel), (hfrom 3).trans (by decide +kernel)⟩,
    hgone 1 (by decide +kernel), (hto 3 (by decide +kernel) (by decide +kernel)).trans ?_,
    fun back => hskip back (by decide +kernel) span_misended rfl⟩
  have htold : addressed 3 (accepted Packet true ([] ++ OverlayEvent.told mixedPieces)) =
      [Packet.failureNotice 8, Packet.failureNotice 4] := by decide +kernel
  rw [htold]
  rfl

end OverlayNode

end OverlayStack
