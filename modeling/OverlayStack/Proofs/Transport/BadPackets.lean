import Mathlib.Data.List.Basic
import OverlayStack.Proofs.Wire.Scanning
import OverlayStack.Routing.NetworkNode
import OverlayStack.Transport.Delivery

/-!
# Packets that carry no segment

A node puts the payloads of packets that are for it on a stream to the transport layer of its host,
each in a frame.  Nothing makes sure that a payload is a segment.  The frame ends where the payload
ends, but a reader takes as much as the header of the segment announces, so that it may stop before
the end of the frame, or go on into the next one.

A payload without a segment costs no more than itself exactly if a read of its frame stops within
the frame and leaves no start of another one behind.  Otherwise there is a packet with a segment
that does not arrive as it should behind it.

## Main definitions

* `Packet.frame`, `Packet.delivery` — what a node puts on the stream for a packet, and what the
  transport layer is to make of it.
* `Packet.Confined` — a payload that costs no more than itself.
* `NetworkNode.fromOverlayAll`, `NetworkNode.handedOver` — what a node does with what it reads.

## Main results

* `NetworkNode.handedOver_fromOverlayAll` — the stream is made of the frames of the packets.
* `Transport.receiveAllFramed_frames` — packets with segments arrive beside confined ones.
* `Transport.receiveAllFramed_probe` — what happens to a segment behind an unfinished frame.
* `NetworkNode.cost_of_bad_packets` — which packets cost no more than themselves.
* `NetworkNode.swallowed` — a packet that swallows the next one.
-/

namespace OverlayStack

open OverlayStack.Frame (Span Exhausts Fits)

/-! ### Packets for a node -/

namespace Packet

/-- What a node that is the destination puts on the stream to the transport layer. -/
def frame (p : Packet) : Bytes :=
  Frame.wire (some p.source) p.payload

/-- What the transport layer is to make of a packet. -/
def delivery (p : Packet) : Transport.Delivery :=
  .ofWire .delivered p.source p.payload

/-- The payload is a segment. -/
def Readable (p : Packet) : Prop :=
  ∃ s, Segment.read p.payload = .ok s

theorem delivery_of_read {p : Packet} {s : Segment} (h : Segment.read p.payload = .ok s) :
    p.delivery = .segment p.source s := by
  rw [delivery, Transport.Delivery.ofWire]
  simp only [Outcome.arrival?]
  rw [h]

theorem delivery_of_not_readable {p : Packet} (h : ¬ p.Readable) : p.delivery = .dropped := by
  rw [delivery, Transport.Delivery.ofWire]
  simp only [Outcome.arrival?]
  cases hread : Segment.read p.payload with
  | error e => rfl
  | ok s => exact absurd ⟨s, hread⟩ h

/-- The packet carries data to the node. -/
def IsFor (me : NodeId) (p : Packet) : Prop :=
  p.kind = .data ∧ p.dest = me

instance (me : NodeId) : DecidablePred (IsFor me) :=
  fun p => inferInstanceAs (Decidable (p.kind = .data ∧ p.dest = me))

/-- Those of the packets that were read which carry data to the node. -/
def readFor (me : NodeId) (reads : List (Except FrameError Packet)) : List Packet :=
  (reads.filterMap (·.toOption)).filter (IsFor me)

theorem readFor_cons (me : NodeId) (read : Except FrameError Packet)
    (reads : List (Except FrameError Packet)) :
    readFor me (read :: reads) = readFor me [read] ++ readFor me reads := by
  rw [readFor, readFor, readFor, ← List.filter_append, ← List.filterMap_append]
  rfl

theorem readFor_ok {me : NodeId} {p : Packet} (h : p.IsFor me) : readFor me [.ok p] = [p] := by
  rw [readFor]
  exact List.filter_eq_self.2 (by simpa [Except.toOption] using h)

theorem readFor_ok_of_not {me : NodeId} {p : Packet} (h : ¬ p.IsFor me) :
    readFor me [.ok p] = [] := by
  rw [readFor]
  exact List.filter_eq_nil_iff.2 (by simpa [Except.toOption] using h)

theorem readFor_pair {me : NodeId} {p q : Packet} (hp : p.IsFor me) (hq : q.IsFor me) :
    readFor me [.ok p, .ok q] = [p, q] := by
  rw [readFor_cons, readFor_ok hp, readFor_ok hq]
  rfl

theorem length_frame (p : Packet) : p.frame.length = 8 + p.payload.length := by
  simp only [frame, Frame.wire, Frame.start, Frame.nodeWire, Frame.trailer, List.length_append,
    Bytes.length_ofWord32, List.length_cons, List.length_nil]
  omega

end Packet

namespace NetworkOutput

/-- The bytes that go to the transport layer. -/
def toTransport? : NetworkOutput → Option Bytes
  | toOverlay _ _ => none
  | toTransport bs => some bs

end NetworkOutput

namespace NetworkNode

/-- The node after some reads from the overlay, and what it sends. -/
def fromOverlayAll (n : NetworkNode) :
    List (Except FrameError Packet) → NetworkNode × List NetworkOutput
  | [] => (n, [])
  | read :: reads =>
    let (n, sent) := n.fromOverlay read
    let (n, rest) := n.fromOverlayAll reads
    (n, sent ++ rest)

/-- The bytes that go to the transport layer in some output of a node. -/
def handedOver (sent : List NetworkOutput) : Bytes :=
  (sent.filterMap (·.toTransport?)).flatten

variable {n : NetworkNode}

theorem handedOver_append (sent rest : List NetworkOutput) :
    handedOver (sent ++ rest) = handedOver sent ++ handedOver rest := by
  rw [handedOver, List.filterMap_append, List.flatten_append]
  rfl

theorem handedOver_toOverlay {sent : List NetworkOutput} (h : ∀ o ∈ sent, o.toTransport? = none) :
    handedOver sent = [] := by
  rw [handedOver, List.filterMap_eq_nil_iff.2 h]
  rfl

/-- A route update changes the routes, and nothing comes of it for the transport layer. -/
theorem handedOver_update (n : NetworkNode) (p : Packet) :
    ∃ router, (n.update p).1 = { n with router } ∧ handedOver (n.update p).2 = [] := by
  unfold update
  split
  · exact ⟨n.router, rfl, rfl⟩
  · split
    · exact ⟨n.router, rfl, rfl⟩
    · refine ⟨_, rfl, handedOver_toOverlay ?_⟩
      intro o ho
      obtain ⟨u, -, rfl⟩ := List.mem_map.1 ho
      rfl

/-- What a packet makes a node hand over. -/
theorem handedOver_handle (hattached : n.transport.isSome = true) (p : Packet) :
    ∃ router, (n.handle p).1 = { n with router } ∧
      handedOver (n.handle p).2 = (Packet.readFor n.me [.ok p]).flatMap Packet.frame := by
  by_cases hfor : p.IsFor n.me
  · obtain ⟨hk, hdest⟩ := hfor
    refine ⟨n.router, by rw [handle, hk], ?_⟩
    rw [Packet.readFor_ok ⟨hk, hdest⟩, handle, hk]
    dsimp only
    rw [forward, if_pos hdest, if_pos hattached]
    rfl
  · rw [Packet.readFor_ok_of_not hfor, handle]
    cases hk : p.kind with
    | routeUpdate => exact n.handedOver_update p
    | data =>
      refine ⟨n.router, rfl, ?_⟩
      dsimp only
      rw [forward, if_neg fun hdest => hfor ⟨hk, hdest⟩]
      cases n.router.nextHop p.dest <;> rfl
    | unknown => exact ⟨n.router, rfl, rfl⟩

/-- What one read makes a node hand over. -/
theorem handedOver_fromOverlay (hlistening : n.listening = true)
    (hattached : n.transport.isSome = true) {read : Except FrameError Packet}
    (hread : Frame.isEnd read = false) :
    ∃ router, (n.fromOverlay read).1 = { n with router } ∧
      handedOver (n.fromOverlay read).2 = (Packet.readFor n.me [read]).flatMap Packet.frame := by
  rw [fromOverlay.eq_def, if_pos hlistening]
  cases read with
  | error e =>
    have hfatal : e.isFatal = false := hread
    refine ⟨n.router, ?_, rfl⟩
    dsimp only
    rw [hfatal, Bool.not_false, ← hlistening]
  | ok p => exact handedOver_handle hattached p

/-- **The stream to the transport layer** is made of the frames of the packets for the node, in the
order in which they were read. -/
theorem handedOver_fromOverlayAll (hlistening : n.listening = true)
    (hattached : n.transport.isSome = true) {reads : List (Except FrameError Packet)}
    (hreads : ∀ r ∈ reads, Frame.isEnd r = false) :
    handedOver (n.fromOverlayAll reads).2 =
      (Packet.readFor n.me reads).flatMap Packet.frame := by
  induction reads generalizing n with
  | nil => rfl
  | cons read reads ih =>
    obtain ⟨router, hnode, hsent⟩ :=
      handedOver_fromOverlay hlistening hattached (hreads read List.mem_cons_self)
    have hrest := ih (n := { n with router }) hlistening hattached fun r hr =>
      hreads r (List.mem_cons_of_mem _ hr)
    rw [fromOverlayAll]
    dsimp only
    rw [handedOver_append, hsent, hnode, hrest, Packet.readFor_cons n.me read reads,
      List.flatMap_append]

end NetworkNode

/-! ### Reading the stream -/

theorem Frame.readRaw_congr {α : Type} [Message α] {withNode : Bool} {stream stream' : Bytes}
    (h : afterStart stream = afterStart stream') :
    readRaw α withNode stream = readRaw α withNode stream' := by
  rw [readRaw, readRaw, h]

theorem Frame.not_start_infix_nil : ¬ start <:+: [] := by
  decide

theorem Frame.isSome_afterStart {stream : Bytes} (h : start <:+: stream) :
    (afterStart stream).isSome = true := by
  fun_induction afterStart stream with
  | case1 => rfl
  | case2 a b tail hab ih =>
    rcases List.infix_cons_iff.1 h with hfront | hinfix
    · simp only [start, List.cons_prefix_cons] at hfront
      exact absurd ⟨hfront.1.symm, hfront.2.1.symm⟩ hab
    · exact ih hinfix
  | case3 stream hshort =>
    obtain ⟨front, back, rfl⟩ := h
    rcases front with _ | ⟨a, _ | ⟨b, front⟩⟩
    · exact absurd rfl (hshort _ _ _)
    · exact absurd rfl (hshort _ _ _)
    · exact absurd rfl (hshort _ _ _)

/-- A stream with a start of a frame in it has a first one. -/
theorem Frame.exists_first_start {stream : Bytes} (h : start <:+: stream) :
    ∃ noise rest, ¬ start <:+: noise ∧ stream = noise ++ (start ++ rest) := by
  obtain ⟨rest, hrest⟩ := Option.isSome_iff_exists.1 (isSome_afterStart h)
  obtain ⟨noise, hnoise, heq⟩ := exists_noise hrest
  exact ⟨noise, rest, hnoise, heq⟩

theorem Frame.afterStart_noise {noise : Bytes} (h : ¬ start <:+: noise) :
    afterStart noise = none := by
  cases hrest : afterStart noise with
  | none => rfl
  | some rest =>
    obtain ⟨front, -, rfl⟩ := exists_noise hrest
    exact absurd ⟨front, rest, by rw [List.append_assoc]⟩ h

namespace Transport

/-- What a read of the stream to the transport layer delivers. -/
def deliveryOf : Except FrameError (Option NodeId × Bytes) → Delivery
  | .ok (source, body) => .ofWire .delivered (source.getD 0) body
  | .error _ => .dropped

/-- The last read, which waits for more or finds that the stream is closed. -/
def closing : Except Error Delivery :=
  .error (streamClosed (.closed .ended))

variable {taken stream rest : Bytes} {result : Except FrameError (Option NodeId × Bytes)}

theorem receiveFramed_of_span (h : Span Segment true taken result) (rest : Bytes) :
    receiveFramed none (taken ++ rest) = (.ok (deliveryOf result), none, rest) := by
  rw [receiveFramed, h.readRaw_append]
  cases h <;> rfl

theorem receiveFramed_of_isEnd (h : Frame.isEnd (Frame.readRaw Segment true stream).1 = true) :
    receiveFramed none stream = (closing, none, []) := by
  rw [receiveFramed, Frame.readRaw_of_isEnd h]
  rfl

theorem receiveAllFramed_of_span (h : Span Segment true taken result) (rest : Bytes) :
    receiveAllFramed none (taken ++ rest) =
      .ok (deliveryOf result) :: receiveAllFramed none rest := by
  have hread := receiveFramed_of_span h rest
  rw [receiveAllFramed]
  split
  · next e he =>
    rw [hread] at he
    cases he
  · next d hd =>
    rw [hread] at hd ⊢
    cases hd
    rfl

theorem receiveAllFramed_of_isEnd (h : Frame.isEnd (Frame.readRaw Segment true stream).1 = true) :
    receiveAllFramed none stream = [closing] := by
  have hread := receiveFramed_of_isEnd h
  rw [receiveAllFramed]
  split
  · next e he =>
    rw [hread] at he
    rw [closing] at he ⊢
    cases he
    rfl
  · next d hd =>
    rw [hread] at hd
    cases hd

/-- What has no start of a frame delivers nothing. -/
theorem receiveAllFramed_noise {noise : Bytes} (h : ¬ Frame.start <:+: noise) :
    receiveAllFramed none noise = [closing] := by
  apply receiveAllFramed_of_isEnd
  rw [Frame.readRaw, Frame.afterStart_noise h]
  rfl

theorem receiveAllFramed_congr {stream' : Bytes}
    (h : Frame.afterStart stream = Frame.afterStart stream') :
    receiveAllFramed none stream = receiveAllFramed none stream' := by
  have hread : receiveFramed none stream = receiveFramed none stream' := by
    rw [receiveFramed, receiveFramed, Frame.readRaw_congr h]
  rw [receiveAllFramed, hread]
  exact (receiveAllFramed.eq_def none stream').symm

/-- What has no start of a frame does not matter in front of frames. -/
theorem receiveAllFramed_noise_append {noise : Bytes} (h : ¬ Frame.start <:+: noise)
    (ps : List Packet) :
    receiveAllFramed none (noise ++ ps.flatMap Packet.frame) =
      receiveAllFramed none (ps.flatMap Packet.frame) := by
  cases ps with
  | nil =>
    rw [List.flatMap_nil, List.append_nil, receiveAllFramed_noise h,
      receiveAllFramed_noise Frame.not_start_infix_nil]
  | cons p ps =>
    apply receiveAllFramed_congr
    have hframe : (p :: ps).flatMap Packet.frame = Frame.start ++ (Bytes.ofWord32 p.source ++
        p.payload ++ Frame.trailer ++ ps.flatMap Packet.frame) := by
      rw [List.flatMap_cons, Packet.frame, Frame.wire, Frame.nodeWire]
      simp only [List.append_assoc]
    rw [hframe, Frame.afterStart_noise_append h]
    exact (Frame.afterStart_noise_append Frame.not_start_infix_nil _).symm

/-! ### Payloads that cost no more than themselves -/

end Transport

namespace Packet

open Transport

/-- A read of the frame of the packet alone stops within the frame, finds no segment, and leaves no
start of a frame behind. -/
def Confined (p : Packet) : Prop :=
  Frame.isEnd (Frame.readRaw Segment true p.frame).1 = false ∧
    deliveryOf (Frame.readRaw Segment true p.frame).1 = .dropped ∧
    ¬ Frame.start <:+: (Frame.readRaw Segment true p.frame).2

variable {p : Packet}

/-- A read takes a payload that fits into a frame, whatever it is. -/
theorem span_frame (h : Fits Segment p.payload) :
    Span Segment true p.frame (.ok (some p.source, p.payload)) :=
  .frame (i := ⟨[], some p.source, p.payload⟩) ⟨Frame.not_start_infix_nil, rfl⟩ h

/-- A payload of the announced length that is no segment costs no more than itself. -/
theorem confined_of_fits (h : Fits Segment p.payload) (hnot : ¬ p.Readable) : p.Confined := by
  have hread := (span_frame h).readRaw_append []
  rw [List.append_nil] at hread
  rw [Confined, hread]
  exact ⟨rfl, delivery_of_not_readable hnot, Frame.not_start_infix_nil⟩

/-- A segment fits into a frame, unless the packet is too long. -/
theorem Readable.fits (h : p.Readable) (hlength : p.payload.length ≤ Packet.maxPayload) :
    Fits Segment p.payload := by
  obtain ⟨s, hs⟩ := h
  obtain ⟨hbytes, hannounced⟩ := Segment.eq_of_read hs
  rw [hbytes] at hlength ⊢
  refine Segment.fits_header_append hannounced ?_
  rw [List.length_append, Segment.length_header] at hlength
  have hmax : Packet.maxPayload = Segment.headerLength + Segment.maxPayload := rfl
  omega

/-- What the read of the frame of such a packet takes and leaves. -/
theorem exists_span_frame (h : p.Readable ∨ p.Confined)
    (hlength : p.payload.length ≤ Packet.maxPayload) :
    ∃ taken rest result, p.frame = taken ++ rest ∧ Span Segment true taken result ∧
      deliveryOf result = p.delivery ∧ ¬ Frame.start <:+: rest := by
  by_cases hread : p.Readable
  · exact ⟨_, [], _, (List.append_nil _).symm, span_frame (hread.fits hlength), rfl,
      Frame.not_start_infix_nil⟩
  · obtain ⟨hgoes, hdropped, hrest⟩ := h.resolve_left hread
    obtain ⟨taken, heq, hspan⟩ := Frame.exists_span hgoes
    exact ⟨taken, _, _, heq, hspan, hdropped.trans (delivery_of_not_readable hread).symm, hrest⟩

end Packet

namespace Transport

/-- **Packets with segments arrive** in their order, beside payloads that cost no more than
themselves. -/
theorem receiveAllFramed_frames {ps : List Packet}
    (h : ∀ p ∈ ps, p.payload.length ≤ Packet.maxPayload ∧ (p.Readable ∨ p.Confined)) :
    receiveAllFramed none (ps.flatMap Packet.frame) =
      ps.map (fun p => .ok p.delivery) ++ [closing] := by
  induction ps with
  | nil => exact receiveAllFramed_noise Frame.not_start_infix_nil
  | cons p ps ih =>
    obtain ⟨hlength, hp⟩ := h p List.mem_cons_self
    obtain ⟨taken, rest, result, hframe, hspan, hdelivery, hrest⟩ := p.exists_span_frame hp hlength
    have htail := ih fun q hq => h q (List.mem_cons_of_mem _ hq)
    rw [List.flatMap_cons, hframe, List.append_assoc, receiveAllFramed_of_span hspan, hdelivery,
      receiveAllFramed_noise_append hrest, htail]
    rfl

/-! ### A segment behind an unfinished frame -/

/-- A segment that is as long as segments may be, of zeros. -/
def probe : Segment :=
  Segment.dataOf 0 0 0 (List.replicate 1464 0)

/-- The packet that takes the segment to a node. -/
def probeFor (me : NodeId) : Packet :=
  Packet.ofSegment 0 me probe.wire

/-- What the probe is in its frame, with the number of the node in front. -/
def probeBody : Bytes :=
  Bytes.ofWord32 0 ++ probe.wire

theorem read_probe : Segment.read probe.wire = .ok probe.stamped :=
  Segment.read_wire (by decide +kernel) (by decide)

theorem length_wire_probe : probe.wire.length = 1488 := by
  rw [Segment.length_wire, probe, Segment.dataOf, List.length_replicate]

/-- The probe is a segment, and no longer than segments may be. -/
theorem probeFor_fine (me : NodeId) : (probeFor me).payload.length ≤ Packet.maxPayload ∧
    ((probeFor me).Readable ∨ (probeFor me).Confined) :=
  ⟨Nat.le_of_eq length_wire_probe, .inl ⟨_, read_probe⟩⟩

theorem delivery_probe (me : NodeId) : (probeFor me).delivery = .segment 0 probe.stamped :=
  Packet.delivery_of_read read_probe

theorem frame_probe (me : NodeId) :
    (probeFor me).frame = Frame.start ++ (probeBody ++ Frame.trailer) := by
  simp only [Packet.frame, probeFor, Packet.ofSegment, Frame.wire, Frame.nodeWire, probeBody,
    List.append_assoc]

/-- The last byte of a frame does not stand in the probe. -/
theorem not_mem_probeBody : 0x23 ∉ probeBody ++ [0x21] := by
  decide +kernel

/-- The probe has no start of a frame in it, and none begins at its end. -/
theorem not_start_infix_probe : ¬ Frame.start <:+: 0x26 :: (probeBody ++ Frame.trailer) := by
  decide +kernel

/-- The probe is only delivered from its own bytes. -/
theorem taken_of_delivery_probe (h : Span Segment true taken result) {me : NodeId}
    (hdelivery : deliveryOf result = (probeFor me).delivery) :
    ∃ noise, ¬ Frame.start <:+: noise ∧
      taken = noise ++ (Frame.start ++ (probeBody ++ Frame.trailer)) := by
  rw [delivery_probe] at hdelivery
  cases h with
  | badTrailer => cases hdelivery
  | oversized => cases hdelivery
  | @frame i hclean hfits =>
    obtain ⟨noise, node, content⟩ := i
    obtain ⟨hnoise, hsome⟩ := hclean
    obtain ⟨source, rfl⟩ := Option.isSome_iff_exists.1 hsome
    cases hread : Segment.read content with
    | error e =>
      simp only [deliveryOf, Delivery.ofWire, Outcome.arrival?, hread] at hdelivery
      cases hdelivery
    | ok s =>
      simp only [deliveryOf, Delivery.ofWire, Outcome.arrival?, hread, Option.getD_some,
        Delivery.segment.injEq] at hdelivery
      obtain ⟨rfl, rfl⟩ := hdelivery
      refine ⟨noise, hnoise, ?_⟩
      have hcontent : content = probe.wire := (Segment.eq_of_read hread).1
      rw [hcontent, Frame.Item.wire, Frame.wire, probeBody, Frame.nodeWire]
      simp only [List.append_assoc]

/-- Once a byte of its frame is taken, the probe is lost. -/
theorem receiveAllFramed_probe_rest {front rest : Bytes} (hfront : front ≠ [])
    (h : Frame.start ++ (probeBody ++ Frame.trailer) = front ++ rest) :
    receiveAllFramed none rest = [closing] := by
  apply receiveAllFramed_noise
  intro hinfix
  cases front with
  | nil => exact hfront rfl
  | cons b front =>
    have htail : 0x26 :: (probeBody ++ Frame.trailer) = front ++ rest := (List.cons.inj h).2
    exact not_start_infix_probe (htail ▸ hinfix.trans (List.suffix_append front rest).isInfix)

/-- **The probe behind an unfinished frame** is not delivered. -/
theorem receiveAllFramed_probe (hend : Frame.isEnd (Frame.readRaw Segment true stream).1 = true)
    (hstart : Frame.start <:+: stream) (hlast : stream.getLast? = some 0x23) (me : NodeId) :
    receiveAllFramed none (stream ++ (probeFor me).frame) = [closing] ∨
      ∃ d, d ≠ (probeFor me).delivery ∧
        receiveAllFramed none (stream ++ (probeFor me).frame) = [.ok d, closing] := by
  rw [frame_probe]
  cases hgoes : Frame.isEnd (Frame.readRaw Segment true
      (stream ++ (Frame.start ++ (probeBody ++ Frame.trailer)))).1 with
  | true => exact .inl (receiveAllFramed_of_isEnd hgoes)
  | false =>
    obtain ⟨taken, heq, hspan⟩ := Frame.exists_span hgoes
    generalize (Frame.readRaw Segment true _).2 = rest at heq
    generalize (Frame.readRaw Segment true _).1 = result at hspan
    rw [heq, receiveAllFramed_of_span hspan]
    have hexhausts := Frame.isEnd_readRaw_iff.1 hend taken result hspan
    -- the read goes beyond the unfinished frame
    obtain ⟨front, rfl, hprobe⟩ : ∃ front, taken = stream ++ front ∧
        Frame.start ++ (probeBody ++ Frame.trailer) = front ++ rest := by
      rcases List.append_eq_append_iff.1 heq with ⟨front, htaken, hrest⟩ | ⟨back, hstream, -⟩
      · exact ⟨front, htaken, hrest⟩
      · exact absurd ⟨back, hstream.symm⟩ hexhausts
    have hfront : front ≠ [] := by
      rintro rfl
      exact hexhausts ⟨[], by simp⟩
    rw [receiveAllFramed_probe_rest hfront hprobe]
    refine .inr ⟨_, fun hdelivery => ?_, rfl⟩
    -- a read that gets the probe takes nothing but the probe behind the first start of a frame
    obtain ⟨noise', hnoise', htaken⟩ := taken_of_delivery_probe hspan hdelivery
    obtain ⟨noise, body, hnoise, rfl⟩ := Frame.exists_first_start hstart
    have hbody : body ++ front = probeBody ++ Frame.trailer := by
      have hafter := congrArg Frame.afterStart htaken
      rw [Frame.afterStart_noise_append hnoise', List.append_assoc, List.append_assoc,
        Frame.afterStart_noise_append hnoise] at hafter
      exact Option.some.inj hafter
    -- but the unfinished frame ends with a byte that the probe does not have
    obtain ⟨body, rfl⟩ : ∃ body', body = body' ++ [0x23] := by
      have hsome : body ≠ [] := by
        rintro rfl
        rw [List.append_nil, List.getLast?_append] at hlast
        cases hlast
      rw [← List.append_assoc, List.getLast?_append_of_ne_nil _ hsome] at hlast
      exact List.getLast?_eq_some_iff.1 hlast
    obtain ⟨front, b, rfl⟩ := (List.eq_nil_or_concat front).resolve_left hfront
    refine not_mem_probeBody ?_
    have hfull : (body ++ [0x23] ++ front) ++ [b] = (probeBody ++ [0x21]) ++ [0x23] := by
      rw [List.concat_eq_append] at hbody
      rw [List.append_assoc, hbody, List.append_assoc]
      rfl
    rw [← (List.append_inj' hfull rfl).1]
    simp

/-- A read that gets the probe takes as much as the longest frame has. -/
theorem le_length_of_delivery_probe (h : Span Segment true taken result) {me : NodeId}
    (hdelivery : deliveryOf result = (probeFor me).delivery) : 1496 ≤ taken.length := by
  obtain ⟨noise, -, rfl⟩ := taken_of_delivery_probe h hdelivery
  simp only [probeBody, List.length_append, length_wire_probe, Bytes.length_ofWord32, Frame.start,
    Frame.trailer, List.length_cons, List.length_nil]
  omega

/-- The probe is delivered with at most a dropped message in front of it, and nothing else is. -/
def ProbeArrives (me : NodeId) (front : Bytes) : Prop :=
  receiveAllFramed none (front ++ (probeFor me).frame) = [.ok (probeFor me).delivery, closing] ∨
    receiveAllFramed none (front ++ (probeFor me).frame) =
      [.ok .dropped, .ok (probeFor me).delivery, closing]

theorem not_probeArrives (hend : Frame.isEnd (Frame.readRaw Segment true stream).1 = true)
    (hstart : Frame.start <:+: stream) (hlast : stream.getLast? = some 0x23) (me : NodeId) :
    ¬ ProbeArrives me stream := by
  rw [ProbeArrives]
  rcases receiveAllFramed_probe hend hstart hlast me with heq | ⟨d, hd, heq⟩
  · rw [heq]
    rintro (h | h)
    · cases h
    · cases h
  · rw [heq]
    rintro (h | h)
    · exact hd (Except.ok.inj (List.cons.inj h).1)
    · cases h

end Transport

/-! ### What packets cost -/

namespace Packet

open Transport

variable {p : Packet}

theorem getLast?_frame (p : Packet) : p.frame.getLast? = some 0x23 := by
  rw [frame, Frame.wire, List.getLast?_append]
  rfl

theorem start_infix_frame (p : Packet) : Frame.start <:+: p.frame := by
  rw [frame, Frame.wire, List.append_assoc, List.append_assoc]
  exact (List.prefix_append _ _).isInfix

/-- A packet costs no more than itself if it does not cost the probe. -/
theorem confined_of_probeArrives (hlength : p.payload.length ≤ Packet.maxPayload) {me : NodeId}
    (h : ProbeArrives me p.frame) : p.Confined := by
  cases hgoes : Frame.isEnd (Frame.readRaw Segment true p.frame).1 with
  | true => exact absurd h (not_probeArrives hgoes p.start_infix_frame p.getLast?_frame me)
  | false =>
    obtain ⟨taken, heq, hspan⟩ := Frame.exists_span hgoes
    generalize hrest : (Frame.readRaw Segment true p.frame).2 = rest at heq
    generalize hresult : (Frame.readRaw Segment true p.frame).1 = result at hspan
    rw [Confined, hresult, hrest]
    have hlen := congrArg List.length heq
    have htaken := hspan.length_le
    have hmax : Packet.maxPayload = 1488 := rfl
    have hheader : Message.headerLength Segment = 24 := rfl
    rw [length_frame, List.length_append] at hlen
    rw [ProbeArrives, heq, List.append_assoc, receiveAllFramed_of_span hspan] at h
    rcases h with h | h
    -- the first read cannot get the probe, unless the second one gets it too
    · obtain ⟨hfirst, hsecond⟩ := List.cons.inj h
      have hle := le_length_of_delivery_probe hspan (Except.ok.inj hfirst)
      have hnil : rest = [] := List.eq_nil_of_length_eq_zero (by omega)
      have hsolo := receiveAllFramed_frames (List.forall_mem_singleton.2 (probeFor_fine me))
      rw [hnil, List.nil_append] at hsecond
      rw [List.flatMap_singleton, hsecond] at hsolo
      cases hsolo
    · obtain ⟨hfirst, hsecond⟩ := List.cons.inj h
      refine ⟨hspan.isEnd_eq, Except.ok.inj hfirst, fun hstart => ?_⟩
      cases hgoes' : Frame.isEnd (Frame.readRaw Segment true rest).1 with
      | true =>
        have hsome : rest ≠ [] := by
          rintro rfl
          exact Frame.not_start_infix_nil hstart
        refine not_probeArrives hgoes' hstart ?_ me (.inl hsecond)
        rw [← List.getLast?_append_of_ne_nil taken hsome, ← heq]
        exact p.getLast?_frame
      | false =>
        obtain ⟨taken', heq', hspan'⟩ := Frame.exists_span hgoes'
        rw [heq', List.append_assoc, receiveAllFramed_of_span hspan'] at hsecond
        have hle := le_length_of_delivery_probe hspan' (Except.ok.inj (List.cons.inj hsecond).1)
        have hlen' := congrArg List.length heq'
        rw [List.length_append] at hlen'
        omega

end Packet

namespace NetworkNode

open Transport

variable {n : NetworkNode}

/-- What the transport layer gets for packets with segments, beside confined ones. -/
theorem receiveAllFramed_handedOver (hlistening : n.listening = true)
    (hattached : n.transport.isSome = true) {reads : List (Except FrameError Packet)}
    (hreads : ∀ r ∈ reads, Frame.isEnd r = false)
    (hps : ∀ p ∈ Packet.readFor n.me reads,
      p.payload.length ≤ Packet.maxPayload ∧ (p.Readable ∨ p.Confined)) :
    receiveAllFramed none (handedOver (n.fromOverlayAll reads).2) =
      (Packet.readFor n.me reads).map (fun p => .ok p.delivery) ++ [closing] := by
  rw [handedOver_fromOverlayAll hlistening hattached hreads]
  exact receiveAllFramed_frames hps

/-- **What packets without a segment cost.**  A node that reads packets from the overlay hands those
for itself over to the transport layer of its host, in frames.  If all of them carry segments or are
confined, each of them is delivered in its turn, with the node it comes from, or dropped if it
carries no segment.  And a packet without a segment is confined exactly if every packet with a
segment behind it is delivered as it should, after at most a dropped message. -/
theorem cost_of_bad_packets (n : NetworkNode) (hlistening : n.listening = true)
    (hattached : n.transport.isSome = true) :
    (∀ reads, (∀ r ∈ reads, Frame.isEnd r = false) →
      (∀ p ∈ Packet.readFor n.me reads,
        p.payload.length ≤ Packet.maxPayload ∧ (p.Readable ∨ p.Confined)) →
      receiveAllFramed none (handedOver (n.fromOverlayAll reads).2) =
        (Packet.readFor n.me reads).map (fun p => .ok p.delivery) ++ [closing]) ∧
    ∀ p, p.IsFor n.me → p.payload.length ≤ Packet.maxPayload → ¬ p.Readable →
      (p.Confined ↔ ∀ q, q.IsFor n.me → q.payload.length ≤ Packet.maxPayload → q.Readable →
        receiveAllFramed none (handedOver (n.fromOverlayAll [.ok p, .ok q]).2) =
          [.ok q.delivery, closing] ∨
        receiveAllFramed none (handedOver (n.fromOverlayAll [.ok p, .ok q]).2) =
          [.ok .dropped, .ok q.delivery, closing]) := by
  refine ⟨fun _ hreads hps => receiveAllFramed_handedOver hlistening hattached hreads hps,
    fun p hp hlength hnot => ⟨fun hconfined q hq hqlength hread => ?_, fun h => ?_⟩⟩
  · right
    have hpair := Packet.readFor_pair hp hq
    rw [receiveAllFramed_handedOver hlistening hattached (by simp [Frame.isEnd]), hpair]
    · simp only [List.map_cons, List.map_nil, Packet.delivery_of_not_readable hnot,
        List.cons_append, List.nil_append]
    · rw [hpair, List.forall_mem_cons, List.forall_mem_singleton]
      exact ⟨⟨hlength, .inr hconfined⟩, hqlength, .inl hread⟩
  · have hprobe : (probeFor n.me).IsFor n.me := ⟨rfl, rfl⟩
    have harrives := h (probeFor n.me) hprobe (probeFor_fine n.me).1 ⟨_, read_probe⟩
    rw [handedOver_fromOverlayAll hlistening hattached (by simp [Frame.isEnd]),
      Packet.readFor_pair hp hprobe, List.flatMap_cons, List.flatMap_singleton] at harrives
    exact Packet.confined_of_probeArrives hlength harrives

/-! ### Two packets -/

/-- A node without neighbors that serves a transport layer. -/
def serving : NetworkNode :=
  (start .linkState Topology.empty 7 0).attach

/-- A packet with a segment. -/
def plain : Packet :=
  Packet.ofSegment 3 7 (Segment.synOf 87 88 1).wire

/-- A packet of as many bytes as a header has, with a wrong checksum. -/
def damaged : Packet :=
  Packet.ofSegment 2 7 (List.replicate 24 0)

/-- A packet of as many bytes as a header has, which announces two more. -/
def announcing : Packet :=
  Packet.ofSegment 2 7 (Segment.header { length := 2 })

theorem plain_readable : Segment.read plain.payload = .ok (Segment.synOf 87 88 1).stamped :=
  Segment.read_wire (by decide) (by decide)

theorem damaged_unreadable : ¬ damaged.Readable := by
  rintro ⟨s, hs⟩
  rw [show Segment.read damaged.payload = .error (.badChecksum 65535) by decide +kernel] at hs
  cases hs

theorem announcing_unreadable : ¬ announcing.Readable := by
  rintro ⟨s, hs⟩
  rw [show Segment.read announcing.payload = .error (.wrongLength 2 0) by decide +kernel] at hs
  cases hs

/-- A packet with a wrong checksum costs no more than itself. -/
theorem cost_of_bad_packets_serving :
    serving.listening = true ∧ serving.transport.isSome = true ∧
      receiveAllFramed none (handedOver (serving.fromOverlayAll [.ok damaged, .ok plain]).2) =
        [.ok .dropped, .ok (.segment 3 (Segment.synOf 87 88 1).stamped), closing] := by
  have hreads : Packet.readFor serving.me [.ok damaged, .ok plain] = [damaged, plain] := by
    decide +kernel
  have hconfined : damaged.Confined :=
    Packet.confined_of_fits ⟨by decide, by decide⟩ damaged_unreadable
  refine ⟨rfl, rfl, ?_⟩
  rw [(serving.cost_of_bad_packets rfl rfl).1 [.ok damaged, .ok plain] (by simp [Frame.isEnd]),
    hreads, List.map_cons, List.map_singleton, Packet.delivery_of_read plain_readable,
    Packet.delivery_of_not_readable damaged_unreadable]
  · rfl
  · rw [hreads, List.forall_mem_cons, List.forall_mem_singleton]
    exact ⟨⟨by decide, .inr hconfined⟩, by decide, .inl ⟨_, plain_readable⟩⟩

/-- **A packet that swallows the next one.**  Both are for the node and no longer than packets may
be.  The first one carries no segment, and the segment in the second one is never delivered. -/
theorem swallowed :
    announcing.IsFor serving.me ∧ announcing.payload.length ≤ Packet.maxPayload ∧
      ¬ announcing.Readable ∧ plain.IsFor serving.me ∧
      plain.payload.length ≤ Packet.maxPayload ∧ plain.Readable ∧
      receiveAllFramed none (handedOver (serving.fromOverlayAll [.ok announcing, .ok plain]).2) =
        [.ok .dropped, closing] := by
  refine ⟨by decide, by decide, announcing_unreadable, by decide, by decide,
    ⟨_, plain_readable⟩, ?_⟩
  have hstream : handedOver (serving.fromOverlayAll [.ok announcing, .ok plain]).2 =
      announcing.frame ++ plain.frame := by decide +kernel
  -- the read takes the end of the first frame for payload and the start of the second for its end
  have hread : Frame.readRaw Segment true (announcing.frame ++ plain.frame) =
      (.error (.badTrailer 0x21 0x26), plain.frame.drop 2) := by decide +kernel
  obtain ⟨taken, heq, hspan⟩ := (Frame.readRaw_eq_iff rfl).1 hread
  rw [hstream, heq, receiveAllFramed_of_span hspan, receiveAllFramed_noise (by decide +kernel)]
  rfl

end NetworkNode

end OverlayStack
