import OverlayStack.Overlay.Relay
import OverlayStack.Proofs.Routing.Journeys
import OverlayStack.Proofs.Transport.BadPackets
import OverlayStack.Proofs.Transport.Outgoing
import OverlayStack.Proofs.Wire.Arrivals

/-!
# Segments across the overlay

On its way from one transport layer to another one a segment is put into a frame for the network
layer, into a packet, into a frame for the overlay, into a frame for a neighbor and into one for the
network layer there, and so on from node to node, and into a last frame for the transport layer of
its destination.  Every stream on the way may be cut into pieces anywhere.

Whatever the segments carry that a client or a server sends, they come out at the other end as they
were put in, with their lengths and checksums filled in, in the order in which they were sent, and
nothing else comes out.

## Main definitions

* `Station` — a node of the network layer and one of the overlay, on the same host.
* `Station.Ready`, `Station.Linked` — stations that are in operation, and links between them.
* `Station.Relays` — what the overlay does with what a node sends.
* `Station.Carries` — the same over all hops of a path.

## Main results

* `NetworkNode.seamless_fromTransport`, `OverlayNode.seamless_fromNetwork`,
  `OverlayNode.seamless_fromNeighbor` — it does not matter how streams are cut.
* `Station.Relays.got_eq` — packets cross one hop.
* `Station.Carries.final_eq` — packets follow a path.
* `Station.segments_arrive` — segments arrive.
-/

namespace OverlayStack

open OverlayStack.Frame (inPieces Seamless)
open Transport (receiveAllFramed sendFramed closing HandedTo)

/-! ### Streams in pieces -/

theorem NodeMap.modify_modify {α : Type} (m : NodeMap α) (k : NodeId) (f g : α → α) :
    (m.modify k f).modify k g = m.modify k (g ∘ f) := by
  unfold modify map
  congr 1
  rw [List.map_map]
  refine List.map_congr_left fun e _ => ?_
  dsimp only [Function.comp_apply]
  split <;> rfl

namespace NetworkNode

theorem forwardRead_attached {n : NetworkNode} {unread rest : Bytes}
    (h : n.transport = some unread) :
    ({ n with transport := some rest } : NetworkNode).forwardRead = n.forwardRead := by
  funext read
  cases read with
  | error e => rfl
  | ok read =>
    rw [forwardRead, forwardRead, forward, forward, h]
    rfl

/-- It does not matter how the stream from the transport layer is cut. -/
theorem seamless_fromTransport : Seamless fromTransport := by
  intro n front back
  cases h : n.transport with
  | none => simp only [fromTransport, h, List.append_nil]
  | some unread =>
    simp only [fromTransport, h]
    rw [← List.append_assoc, Frame.readAvailable_append, List.flatMap_append,
      forwardRead_attached h]

end NetworkNode

namespace OverlayNode

/-- It does not matter how the stream from the network layer is cut. -/
theorem seamless_fromNetwork : Seamless fromNetwork := by
  intro o front back
  cases h : o.network with
  | none => simp only [fromNetwork, h, List.append_nil]
  | some unread =>
    simp only [fromNetwork, h]
    rw [← List.append_assoc, Frame.readAvailable_append, List.flatMap_append]
    rfl

/-- It does not matter how the stream from a neighbor is cut. -/
theorem seamless_fromNeighbor (id : NodeId) :
    Seamless fun (o : OverlayNode) bs => o.fromNeighbor id bs := by
  intro o front back
  cases h : o.neighbors.find? id with
  | none => simp [fromNeighbor, h]
  | some neighbor =>
    cases hlink : neighbor.link with
    | none => simp [fromNeighbor, h, hlink]
    | some l =>
      simp only [fromNeighbor, h, hlink, Option.bind_some, NodeMap.find?_modify, if_true,
        Option.map_some, NodeMap.modify_modify]
      rw [← List.append_assoc, Frame.readAvailable_append, List.flatMap_append]
      rfl

end OverlayNode

/-! ### Layers -/

/-- The bytes that a node puts on the stream to the overlay: packets in frames with the next hop. -/
def NetworkOutput.toOverlay? : NetworkOutput → Option Bytes
  | toOverlay next p => some (Frame.write (some next) p)
  | toTransport _ => none

/-- The bytes that a node puts on the stream to a neighbor. -/
def OverlayOutput.toNeighbor? (id : NodeId) : OverlayOutput → Option Bytes
  | toNeighbor next bs => if next = id then some bs else none
  | toNetwork _ => none

/-- The bytes that a node puts on the stream to the network layer of its host. -/
def OverlayOutput.toNetwork? : OverlayOutput → Option Bytes
  | toNetwork bs => some bs
  | toNeighbor _ _ => none

/-- What the network layer reads from a stream from the overlay. -/
def NetworkNode.readsOf (stream : Bytes) : List (Except FrameError Packet) :=
  (Frame.readAvailable Packet false stream).1.map fun read =>
    (Frame.decoded Packet read).map (·.2)

/-- The nodes of a topology have numbers of their own. -/
theorem Topology.ne_broadcastId_of_mem_nodeIds {t : Topology} {a : NodeId} (h : a ∈ t.nodeIds) :
    a ≠ broadcastId := by
  rintro rfl
  exact absurd (toNat_lt_of_mem_nodeIds h) (by decide)

/-- What outputs put on a stream. -/
theorem flatten_filterMap_map {α β : Type} {f : β → Option Bytes} {g : α → β} {bytes : α → Bytes}
    (h : ∀ a, f (g a) = some (bytes a)) (as : List α) :
    ((as.map g).filterMap f).flatten = as.flatMap bytes := by
  rw [List.filterMap_map, List.flatMap, ← List.filterMap_eq_map]
  congr 2
  funext a
  exact h a

theorem flatMap_eq_map {α β : Type} {f : α → List β} {g : α → β} {as : List α}
    (h : ∀ a ∈ as, f a = [g a]) : as.flatMap f = as.map g := by
  rw [List.map_eq_flatMap]
  exact List.flatMap_congr h

/-- Packets with data that a frame can carry. -/
def Packet.Portable (p : Packet) : Prop :=
  p.kind = .data ∧ p.payload.length ≤ Packet.maxPayload

variable {ps : List Packet}

theorem Packet.Portable.sound {p : Packet} (h : p.Portable) : Message.Faithful.Sound p :=
  ⟨by rw [h.1]; decide, h.2⟩

theorem Packet.portable_ofSegment {g : Segment} (h : g.Sendable) (source dest : NodeId) :
    (ofSegment source dest g.wire).Portable := by
  refine ⟨rfl, ?_⟩
  show g.wire.length ≤ _
  rw [Segment.length_wire]
  exact Nat.add_le_add_left h.2 _

namespace NetworkNode

variable {n : NetworkNode}

/-- Packets are read from the overlay as they were written. -/
theorem readsOf_write (h : ∀ p ∈ ps, p.Portable) :
    readsOf (ps.flatMap (Frame.write none)) = ps.map .ok := by
  have hread := Frame.readAvailable_write none fun p hp => (h p hp).sound
  rw [Option.isSome_none] at hread
  rw [readsOf, hread, List.map_map]
  refine List.map_congr_left fun p hp => ?_
  dsimp only [Function.comp_apply]
  rw [Frame.decoded_encode (h p hp).sound]
  rfl

/-- Packets with data are sent on or handed over, one after the other. -/
theorem sent_fromOverlayAll (hlistening : n.listening = true) (h : ∀ p ∈ ps, p.Portable) :
    (n.fromOverlayAll (ps.map .ok)).2 = ps.flatMap n.forward := by
  induction ps with
  | nil => rfl
  | cons p ps ih =>
    have hfirst : n.fromOverlay (.ok p) = (n, n.forward p) := by
      rw [fromOverlay, if_pos hlistening, handle, (h p List.mem_cons_self).1]
    rw [List.map_cons, fromOverlayAll, hfirst, List.flatMap_cons]
    dsimp only
    rw [ih fun q hq => h q (List.mem_cons_of_mem _ hq)]

theorem sent_fromTransport_nil (h : n.transport = some []) : (n.fromTransport []).2 = [] := by
  simp only [fromTransport, h, List.nil_append, Frame.readAvailable_nil, List.flatMap_nil]

/-- Segments from the transport layer are put into packets. -/
theorem sent_fromTransport (h : n.transport = some []) {segments : List Segment}
    (hsegments : ∀ g ∈ segments, g.Sendable) (dest : NodeId) :
    (n.fromTransport (segments.flatMap (Frame.write (some dest)))).2 =
      (segments.map fun g => Packet.ofSegment n.me dest g.wire).flatMap n.forward := by
  have hsound : ∀ g ∈ segments, Message.Faithful.Sound g := hsegments
  have hread := Frame.readAvailable_write (some dest) hsound
  rw [Option.isSome_some] at hread
  simp only [fromTransport, h, List.nil_append]
  rw [hread, List.flatMap_map, List.flatMap_map]
  rfl

end NetworkNode

namespace OverlayNode

variable {o : OverlayNode}

theorem sent_fromNetwork_nil (h : o.network = some []) : (o.fromNetwork []).2 = [] := by
  simp only [fromNetwork, h, List.nil_append, Frame.readAvailable_nil, List.flatMap_nil]

/-- Packets from the network layer go to the next hop. -/
theorem sent_fromNetwork (ho : o.network = some []) {next : NodeId} {l : NeighborLink}
    (hlink : (o.neighbors.find? next).bind (·.link) = some l) (hup : l.hungUp = false)
    (hnext : next ≠ broadcastId) (h : ∀ p ∈ ps, p.Portable) :
    (o.fromNetwork (ps.flatMap (Frame.write (some next)))).2 =
      ps.map fun p => .toNeighbor next (Frame.write none p) := by
  have hread := Frame.readAvailable_write (some next) fun p hp => (h p hp).sound
  rw [Option.isSome_some] at hread
  simp only [fromNetwork, ho, List.nil_append]
  rw [hread, List.flatMap_map]
  refine flatMap_eq_map fun p hp => ?_
  rw [relayOutward, Frame.decoded_encode (h p hp).sound]
  dsimp only
  rw [toNext, if_neg hnext, NeighborTable.send, hlink]
  dsimp only
  rw [if_neg (by rw [hup]; decide)]
  rfl

theorem sent_fromNeighbor_nil {id : NodeId} {l : NeighborLink}
    (hlink : (o.neighbors.find? id).bind (·.link) = some l) (hunread : l.unread = []) :
    (o.fromNeighbor id []).2 = [] := by
  simp only [fromNeighbor, hlink, hunread, List.nil_append, Frame.readAvailable_nil,
    List.flatMap_nil]

/-- Packets from a neighbor go to the network layer. -/
theorem sent_fromNeighbor (ho : o.network = some []) {id : NodeId} {l : NeighborLink}
    (hlink : (o.neighbors.find? id).bind (·.link) = some l) (hunread : l.unread = [])
    (h : ∀ p ∈ ps, p.Portable) :
    (o.fromNeighbor id (ps.flatMap (Frame.write none))).2 =
      ps.map fun p => .toNetwork (Frame.write none p) := by
  have hread := Frame.readAvailable_write none fun p hp => (h p hp).sound
  rw [Option.isSome_none] at hread
  simp only [fromNeighbor, hlink, hunread, List.nil_append]
  rw [hread, List.flatMap_map]
  refine flatMap_eq_map fun p hp => ?_
  rw [relayInward, Frame.decoded_encode (h p hp).sound]
  dsimp only
  rw [toNetwork, ho]
  rfl

end OverlayNode

/-! ### One hop -/

/-- A node of the network layer and one of the overlay, on the same host. -/
structure Station where
  network : NetworkNode
  overlay : OverlayNode

namespace Station

/-- The station of a node is in operation: its network layer listens to its overlay node, and
nothing is left of what the overlay has read. -/
structure Ready (v : NodeId) (s : Station) : Prop where
  me_eq : s.network.me = v
  listening : s.network.listening = true
  connected : s.overlay.network = some []

variable {station : NodeId → Station} {v w : NodeId} {sent got final : List NetworkOutput}

/-- There is a link from one node to another one. -/
structure Linked (station : NodeId → Station) (v w : NodeId) : Prop where
  /-- The first node has a link to the second one, which has not hung up. -/
  outward : ∃ l, ((station v).overlay.neighbors.find? w).bind (·.link) = some l ∧
    l.hungUp = false
  /-- The second node has a link to the first one, and nothing is left of what it has read. -/
  inward : ∃ l, ((station w).overlay.neighbors.find? v).bind (·.link) = some l ∧ l.unread = []

/-- What the network layer of the first node sends goes over the overlay to that of the second one,
which sends something for it.  The streams between the layers and the nodes are cut into pieces. -/
def Relays (station : NodeId → Station) (v w : NodeId) (sent got : List NetworkOutput) : Prop :=
  ∃ outward inward : List Bytes,
    outward.flatten = (sent.filterMap (·.toOverlay?)).flatten ∧
    inward.flatten = ((inPieces OverlayNode.fromNetwork (station v).overlay outward).2.filterMap
      (·.toNeighbor? w)).flatten ∧
    got = ((station w).network.fromOverlayAll (NetworkNode.readsOf
      ((inPieces (fun o bs => o.fromNeighbor v bs) (station w).overlay inward).2.filterMap
        (·.toNetwork?)).flatten)).2

theorem exists_relays (station : NodeId → Station) (v w : NodeId) (sent : List NetworkOutput) :
    ∃ got, Relays station v w sent got :=
  ⟨_, [_], [_], List.append_nil _, List.append_nil _, rfl⟩

/-- **Packets cross one hop**: the next node gets the packets that are sent to it. -/
theorem Relays.got_eq (hv : (station v).Ready v) (hw : (station w).Ready w)
    (hlinked : Linked station v w) (hne : w ≠ broadcastId) (hps : ∀ p ∈ ps, p.Portable)
    (h : Relays station v w (ps.map (.toOverlay w)) got) :
    got = ps.flatMap (station w).network.forward := by
  obtain ⟨outward, inward, houtward, hinward, rfl⟩ := h
  obtain ⟨⟨l, hlink, hup⟩, l', hlink', hunread⟩ := hlinked
  have hfrom := OverlayNode.sent_fromNetwork hv.connected hlink hup hne hps
  have hinto := OverlayNode.sent_fromNeighbor hw.connected hlink' hunread hps
  have hfirst : outward.flatten = ps.flatMap (Frame.write (some w)) :=
    houtward.trans (flatten_filterMap_map (by exact fun _ => rfl) ps)
  rw [OverlayNode.seamless_fromNetwork.sent_inPieces
    (OverlayNode.sent_fromNetwork_nil hv.connected), hfirst, hfrom] at hinward
  have hsecond : inward.flatten = ps.flatMap (Frame.write none) :=
    hinward.trans (flatten_filterMap_map (by exact fun _ => if_pos rfl) ps)
  have hthird : ((ps.map fun p => .toNetwork (Frame.write none p)).filterMap
      OverlayOutput.toNetwork?).flatten = ps.flatMap (Frame.write none) :=
    flatten_filterMap_map (by exact fun _ => rfl) ps
  rw [(OverlayNode.seamless_fromNeighbor v).sent_inPieces
    (OverlayNode.sent_fromNeighbor_nil hlink' hunread), hsecond, hinto, hthird,
    NetworkNode.readsOf_write hps, NetworkNode.sent_fromOverlayAll hw.listening hps]

/-! ### All hops -/

/-- What the network layer of a node sends goes over the overlay from node to node, until the last
one sends something for it. -/
inductive Carries (station : NodeId → Station) :
    NodeId → List NodeId → List NetworkOutput → List NetworkOutput → Prop where
  | arrived {v : NodeId} {sent : List NetworkOutput} : Carries station v [] sent sent
  | hop {v w : NodeId} {stops : List NodeId} {sent got final : List NetworkOutput}
      (hrelays : Relays station v w sent got) (hrest : Carries station w stops got final) :
      Carries station v (w :: stops) sent final

theorem exists_carries (station : NodeId → Station) (stops : List NodeId) :
    ∀ v sent, ∃ final, Carries station v stops sent final := by
  induction stops with
  | nil => exact fun v sent => ⟨sent, .arrived⟩
  | cons w stops ih =>
    intro v sent
    obtain ⟨got, hrelays⟩ := exists_relays station v w sent
    obtain ⟨final, hrest⟩ := ih w got
    exact ⟨final, .hop hrelays hrest⟩

/-- **Packets follow the path** that the next hops give, and are handed over at its end. -/
theorem Carries.final_eq {dest : NodeId} {stops : List NodeId}
    (hleads : Leads (fun u => (station u).network.router.nextHop dest) dest v stops)
    (hready : ∀ u ∈ v :: stops, (station u).Ready u)
    (hlinked : (v :: stops).IsChain (Linked station)) (hnodes : ∀ u ∈ stops, u ≠ broadcastId)
    (hps : ∀ p ∈ ps, p.Portable ∧ p.dest = dest)
    (h : Carries station v stops (ps.flatMap (station v).network.forward) final) :
    final = ps.flatMap (station dest).network.localDelivery := by
  induction hleads with
  | arrived =>
    cases h
    refine List.flatMap_congr fun p hp => NetworkNode.forward_of_dest_eq ?_
    rw [(hps p hp).2, (hready dest List.mem_cons_self).me_eq]
  | @hop v w stops hne hnext _ ih =>
    have hsent : ps.flatMap (station v).network.forward = ps.map (.toOverlay w) := by
      refine flatMap_eq_map fun p hp => ?_
      rw [NetworkNode.forward_of_dest_ne, (hps p hp).2, hnext]
      · rfl
      · rw [(hps p hp).2, (hready v List.mem_cons_self).me_eq]
        exact hne.symm
    rw [hsent] at h
    obtain ⟨hlink, hlinks⟩ := List.isChain_cons_cons.1 hlinked
    have hw := hready w (List.mem_cons_of_mem _ List.mem_cons_self)
    cases h with
    | hop hrelays hrest =>
      rw [hrelays.got_eq (hready v List.mem_cons_self) hw hlink (hnodes w List.mem_cons_self)
        fun p hp => (hps p hp).1] at hrest
      exact ih (fun u hu => hready u (List.mem_cons_of_mem _ hu)) hlinks
        (fun u hu => hnodes u (List.mem_cons_of_mem _ hu)) hrest

/-! ### Segments -/

theorem mapM_sendFramed (dest : NodeId) (segments : List Segment) :
    segments.mapM (sendFramed none dest) = .ok (segments.map (Frame.write (some dest))) :=
  List.mapM_pure

theorem handedOver_localDelivery {n : NetworkNode} (h : n.transport.isSome = true) :
    NetworkNode.handedOver (ps.flatMap n.localDelivery) = ps.flatMap Packet.frame := by
  have hone : ps.flatMap n.localDelivery = ps.map fun p => .toTransport p.frame :=
    flatMap_eq_map fun p _ => if_pos h
  rw [hone, NetworkNode.handedOver]
  exact flatten_filterMap_map (by exact fun _ => rfl) ps

/-- **Segments arrive.**  Whatever segments clients and servers hand to the link below for a node,
they are put on the stream to the network layer.  However this stream and those behind it are cut
into pieces, and over however many hops the nodes of a topology lead from the origin to the
destination, the transport layer there gets just these segments, with their lengths and checksums
filled in, from the origin, and in the order in which they were sent. -/
theorem segments_arrive {t : Topology} {origin dest : NodeId} {stops : List NodeId}
    (hnodes : ∀ u ∈ stops, u ∈ t.nodeIds)
    (hleads : Leads (fun u => (station u).network.router.nextHop dest) dest origin stops)
    (hready : ∀ u ∈ origin :: stops, (station u).Ready u)
    (hlinked : (origin :: stops).IsChain (Linked station))
    (horigin : (station origin).network.transport = some [])
    (hdest : (station dest).network.transport.isSome = true) {segments : List Segment}
    (hsegments : ∀ g ∈ segments, HandedTo dest g) :
    ∃ frames, segments.mapM (sendFramed none dest) = .ok frames ∧
      ∀ pieces : List Bytes, pieces.flatten = frames.flatten →
        (∃ final, Carries station origin stops
          (inPieces NetworkNode.fromTransport (station origin).network pieces).2 final) ∧
        ∀ final, Carries station origin stops
            (inPieces NetworkNode.fromTransport (station origin).network pieces).2 final →
          receiveAllFramed none (NetworkNode.handedOver final) =
            segments.map (fun g => .ok (.segment origin g.stamped)) ++ [closing] := by
  have hsendable := fun g hg => (hsegments g hg).sendable
  refine ⟨_, mapM_sendFramed dest segments, fun pieces hpieces =>
    ⟨exists_carries station stops origin _, fun final hcarries => ?_⟩⟩
  rw [NetworkNode.seamless_fromTransport.sent_inPieces
    (NetworkNode.sent_fromTransport_nil horigin), hpieces, ← List.flatMap,
    NetworkNode.sent_fromTransport horigin hsendable,
    (hready origin List.mem_cons_self).me_eq] at hcarries
  have hpackets : ∀ p ∈ segments.map fun g => Packet.ofSegment origin dest g.wire,
      p.Portable ∧ p.dest = dest := by
    intro p hp
    obtain ⟨g, hg, rfl⟩ := List.mem_map.1 hp
    exact ⟨Packet.portable_ofSegment (hsendable g hg) origin dest, rfl⟩
  have hreadable : ∀ g ∈ segments, Segment.read g.wire = .ok g.stamped := by
    intro g hg
    have hmax : Segment.maxPayload = 1464 := rfl
    have hle := (hsendable g hg).2
    exact Segment.read_wire (by omega) (hsendable g hg).1
  have hne : ∀ u ∈ stops, u ≠ broadcastId :=
    fun u hu => Topology.ne_broadcastId_of_mem_nodeIds (hnodes u hu)
  rw [hcarries.final_eq hleads hready hlinked hne hpackets, handedOver_localDelivery hdest,
    Transport.receiveAllFramed_frames, List.map_map]
  · congr 1
    refine List.map_congr_left fun g hg => ?_
    exact congrArg Except.ok (Packet.delivery_of_read (hreadable g hg))
  · intro p hp
    refine ⟨(hpackets p hp).1.2, .inl ?_⟩
    obtain ⟨g, hg, rfl⟩ := List.mem_map.1 hp
    exact ⟨_, hreadable g hg⟩

/-! ### Two segments on their way across the chorded line -/

/-- The station of a node of the chorded line, with links to all its neighbors. -/
def chordedStation (v : NodeId) : Station where
  network := .told [] v
  overlay := {
    me := v
    address := ⟨10, 0, 0, v.toUInt8⟩
    neighbors := (NeighborTable.start Topology.chordedLine v).map fun _ n =>
      { n with link := some {} }
    network := some [] }

open Transport in
/-- Port 7 of a client is connected to port 9 of node 3. -/
def connecting : List ClientTurn :=
  [{ move := .openSocket 7 }, { move := .connect 0 3 9 }, { move := .wake 0 },
    { move := .handle ((Segment.synOf 7 9 0).reply .synAck 1) }, { move := .wake 0 }]

/-- A piece of a stream that looks like the end of a frame and the start of the next one. -/
def framelike : Segment :=
  Segment.dataOf 7 9 1 (Frame.trailer ++ Frame.start)

theorem handedTo_request : HandedTo 3 (Segment.synOf 7 9 0) :=
  .byClient (show Transport.Client.start {} = .ok ⟨{}, .free 10⟩ from rfl) (connecting.take 2)
    { move := .wake 0 } (by decide +kernel)

theorem handedTo_framelike : HandedTo 3 framelike :=
  .byClient (show Transport.Client.start {} = .ok ⟨{}, .free 10⟩ from rfl) connecting
    { move := .send 0 (Frame.trailer ++ Frame.start) } (by decide +kernel)

/-- The two segments cross a node on their way, and the first stream is cut in their middle. -/
theorem segments_arrive_chordedLine :
    ∃ front back final,
      [Segment.synOf 7 9 0, framelike].mapM (sendFramed none 3) = .ok [front, back] ∧
      Carries chordedStation 1 [2, 3] (inPieces NetworkNode.fromTransport (chordedStation 1).network
        [front.take 20, front.drop 20 ++ back.take 20, back.drop 20]).2 final ∧
      receiveAllFramed none (NetworkNode.handedOver final) =
        [.ok (.segment 1 (Segment.synOf 7 9 0).stamped), .ok (.segment 1 framelike.stamped),
          closing] := by
  have hleads : Leads (fun u => (chordedStation u).network.router.nextHop 3) 3 1 [2, 3] :=
    .hop (by decide) (by decide +kernel) (.hop (by decide) (by decide +kernel) .arrived)
  have hnodes : ∀ u ∈ ([2, 3] : List NodeId), u ∈ Topology.chordedLine.nodeIds := by
    rw [List.forall_mem_cons, List.forall_mem_singleton]
    exact ⟨by decide, by decide⟩
  have hready : ∀ u ∈ [1, 2, 3], (chordedStation u).Ready u := fun u _ => ⟨rfl, rfl, rfl⟩
  have hlinked : [1, 2, 3].IsChain (Linked chordedStation) := by
    refine .cons_cons ⟨⟨_, rfl, rfl⟩, ⟨_, rfl, rfl⟩⟩ (.cons_cons ⟨⟨_, rfl, rfl⟩, ⟨_, rfl, rfl⟩⟩ ?_)
    exact .singleton 3
  have hsegments : ∀ g ∈ [Segment.synOf 7 9 0, framelike], HandedTo 3 g := by
    rw [List.forall_mem_cons, List.forall_mem_singleton]
    exact ⟨handedTo_request, handedTo_framelike⟩
  obtain ⟨frames, hframes, harrive⟩ :=
    segments_arrive hnodes hleads hready hlinked rfl rfl hsegments
  obtain rfl := Except.ok.inj (hframes.symm.trans (mapM_sendFramed 3 _))
  have hcut : ∀ front back : Bytes,
      [front.take 20, front.drop 20 ++ back.take 20, back.drop 20].flatten =
        [front, back].flatten := by
    intro front back
    simp only [List.flatten_cons, List.flatten_nil, List.append_nil, List.append_assoc]
    rw [← List.append_assoc (front.take 20), List.take_append_drop, List.take_append_drop]
  obtain ⟨⟨final, hcarries⟩, hget⟩ := harrive _ (hcut _ _)
  exact ⟨_, _, final, hframes, hcarries, hget final hcarries⟩

end Station

end OverlayStack
