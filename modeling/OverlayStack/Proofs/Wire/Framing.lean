import OverlayStack.Proofs.Wire.Packet
import OverlayStack.Proofs.Wire.Segment
import OverlayStack.Wire.Frame

/-!
# Frames on a stream are found again

A stream on which frames were written is read as these frames, whatever the messages in them
contain, and whatever stands in front of each frame, as long as it has no start of a frame.  What
stands there may end with the first byte of such a start.  Every read takes the stream up to the end
of one frame, so that a frame with bytes that are no message costs nothing but itself.

## Main definitions

* `Frame.Fits` — byte strings that a frame can carry.
* `Message.Faithful` — messages that are read back from their bytes.
* `Frame.Item`, `Item.wire`, `Item.written` — noise with a frame behind it.
* `Frame.readings` — what the reads of a stream of items get.

## Main results

* `Frame.readRaw_item` — a read takes one item.
* `Frame.read_write` — a message that is written is read.
* `Frame.readAll_written` — the reads of a stream take its items one by one.
-/

namespace OverlayStack

/-! ### Bodies -/

/-- The bytes are a header and as much payload as the header announces, which is not more than a
frame may have. -/
structure Frame.Fits (α : Type) [Message α] (body : Bytes) : Prop where
  length_eq : body.length =
    Message.headerLength α + Message.announced α (body.take (Message.headerLength α))
  announced_le :
    Message.announced α (body.take (Message.headerLength α)) ≤ Message.maxPayload α

/-- Messages that are read back from their bytes. -/
class Message.Faithful (α : Type) [Message α] where
  /-- What may be sent in a frame. -/
  Sound : α → Prop
  /-- A message as it is received. -/
  received : α → α
  /-- The bytes of a message fit into a frame. -/
  fits {m : α} : Sound m → Frame.Fits α (Message.encode m)
  /-- The bytes of a message are read as this message. -/
  decode_encode {m : α} : Sound m → Message.decode (Message.encode m) = .ok (received m)

theorem Segment.announced_header (s : Segment) :
    Message.announced Segment s.header = s.length.toNat := by
  have hword : Bytes.splitWord16? (s.header.drop 20) = some (s.length, Bytes.ofWord16 s.checksum) :=
    Bytes.splitWord16?_ofWord16_append _ _
  rw [Message.announced, show Message.lengthOffset Segment = 20 from rfl, hword]

/-- A header with as much payload as it announces fits into a frame. -/
theorem Segment.fits_header_append {s : Segment} (h : s.payload.length = s.length.toNat)
    (hle : s.payload.length ≤ Segment.maxPayload) : Frame.Fits Segment (s.header ++ s.payload) := by
  have hannounced : Message.announced Segment
      ((s.header ++ s.payload).take (Message.headerLength Segment)) = s.payload.length := by
    rw [h]
    exact s.announced_header
  refine ⟨?_, ?_⟩
  · rw [hannounced, List.length_append, length_header]
    rfl
  · rw [hannounced]
    exact hle

theorem Segment.fits_wire {s : Segment} (h : s.payload.length ≤ Segment.maxPayload) :
    Frame.Fits Segment s.wire := by
  have hmax : Segment.maxPayload = 1464 := rfl
  have hlength : s.stamped.payload.length = s.stamped.length.toNat := by
    show s.payload.length = (UInt16.ofNat s.payload.length).toNat
    rw [UInt16.toNat_ofNat', Nat.mod_eq_of_lt (by omega)]
  exact Segment.fits_header_append hlength h

theorem Packet.announced_header {p : Packet} (h : p.payload.length ≤ 65535) :
    Message.announced Packet p.header = p.payload.length := by
  have hword : Bytes.splitWord16? (p.header.drop 8) =
      some (UInt16.ofNat p.payload.length, Bytes.ofWord16 p.kind.code) :=
    Bytes.splitWord16?_ofWord16_append _ _
  rw [Message.announced, show Message.lengthOffset Packet = 8 from rfl, hword]
  dsimp only
  rw [UInt16.toNat_ofNat', Nat.mod_eq_of_lt (by omega)]

theorem Packet.fits_wire {p : Packet} (h : p.payload.length ≤ Packet.maxPayload) :
    Frame.Fits Packet p.wire := by
  have hmax : Packet.maxPayload = 1488 := rfl
  have hannounced : Message.announced Packet (p.wire.take (Message.headerLength Packet)) =
      p.payload.length :=
    Packet.announced_header (by omega)
  refine ⟨?_, ?_⟩
  · rw [hannounced, Packet.length_wire]
    rfl
  · rw [hannounced]
    exact h

/-- A segment of a known kind is received with its length and its checksum. -/
instance : Message.Faithful Segment where
  Sound s := s.kind ≠ .unknown ∧ s.payload.length ≤ Segment.maxPayload
  received := Segment.stamped
  fits h := Segment.fits_wire h.2
  decode_encode {s} h := by
    have hmax : Segment.maxPayload = 1464 := rfl
    show (Segment.read s.wire).mapError MessageError.segment = .ok s.stamped
    rw [Segment.read_wire (by omega) h.1]
    rfl

/-- A packet of a known kind is received as it was sent. -/
instance : Message.Faithful Packet where
  Sound p := p.kind ≠ .unknown ∧ p.payload.length ≤ Packet.maxPayload
  received := id
  fits h := Packet.fits_wire h.2
  decode_encode {p} h := by
    have hmax : Packet.maxPayload = 1488 := rfl
    show (Packet.read p.wire).mapError MessageError.packet = .ok p
    rw [Packet.read_wire (by omega) h.1]
    rfl

namespace Frame

/-! ### Items -/

/-- A frame, and what stands in front of it. -/
structure Item (β : Type) where
  /-- The bytes in front of the frame. -/
  noise : Bytes
  /-- The node in the frame, if it has one. -/
  node : Option NodeId
  /-- What is in the frame. -/
  content : β

namespace Item

/-- The bytes of an item. -/
def wire (i : Item Bytes) : Bytes :=
  i.noise ++ Frame.wire i.node i.content

/-- The bytes of an item whose frame carries a message. -/
def written {α : Type} [Message α] (i : Item α) : Bytes :=
  i.noise ++ Frame.write i.node i.content

/-- There is no start of a frame in front of the frame, and a node in it if there is to be one. -/
structure Clean {β : Type} (withNode : Bool) (i : Item β) : Prop where
  noise : ¬ Frame.start <:+: i.noise
  isSome_node : i.node.isSome = withNode

/-- A frame with nothing in front of it is clean. -/
theorem clean_nil {β : Type} (node : Option NodeId) (content : β) :
    Clean node.isSome ⟨[], node, content⟩ where
  noise := show ¬ Frame.start <:+: [] by decide
  isSome_node := rfl

/-- The item with the bytes of its message. -/
def encoded {α : Type} [Message α] (i : Item α) : Item Bytes :=
  ⟨i.noise, i.node, Message.encode i.content⟩

end Item

/-- What the reads of a stream of items get, each with the stream after it, if they take the items
one by one.  The last read reaches the end. -/
def readings {β γ : Type} (wire : Item β → Bytes) (result : Item β → Except FrameError γ) :
    List (Item β) → List (Except FrameError γ × Bytes)
  | [] => [(.error (.closed .ended), [])]
  | i :: rest => (result i, rest.flatMap wire) :: readings wire result rest

/-! ### One read -/

/-- Noise that ends with the first byte of a start does not hide the start behind it. -/
theorem afterStart_noise_append {noise : Bytes} (h : ¬ start <:+: noise) (rest : Bytes) :
    afterStart (noise ++ (start ++ rest)) = some rest := by
  induction noise with
  | nil => simp [afterStart, start]
  | cons a noise ih =>
    have htail : ¬ start <:+: noise := fun hin => h (hin.trans (List.suffix_cons a noise).isInfix)
    have hnext := ih htail
    cases noise with
    -- the byte after the last one of the noise is the first one of the start
    | nil =>
      rw [List.nil_append, start, List.cons_append] at hnext
      rw [start, List.cons_append, List.nil_append, List.cons_append, afterStart,
        if_neg (by simp)]
      exact hnext
    | cons b noise =>
      have hne : ¬ (a = 0x21 ∧ b = 0x26) := by
        rintro ⟨rfl, rfl⟩
        exact h (List.prefix_append [0x21, 0x26] noise).isInfix
      rw [List.cons_append] at hnext
      rw [List.cons_append, List.cons_append, afterStart, if_neg hne]
      exact hnext

theorem splitNode?_nodeWire_append (node : Option NodeId) (rest : Bytes) :
    splitNode? node.isSome (nodeWire node ++ rest) = some (node, rest) := by
  cases node with
  | none => rfl
  | some node =>
    rw [nodeWire, Option.isSome_some, splitNode?, if_pos rfl, Bytes.splitWord32?_ofWord32_append]
    rfl

variable {α : Type} [Message α] {withNode : Bool}

/-- A read that has taken a header goes on by what the header announces. -/
theorem readRaw_header {i : Item Bytes} (h : i.Clean withNode)
    (hlength : i.content.length = Message.headerLength α) (rest : Bytes) :
    readRaw α withNode (i.noise ++ (start ++ nodeWire i.node ++ i.content) ++ rest) =
      if Message.announced α i.content > Message.maxPayload α then
        (.error (.oversized (Message.layer α) (Message.announced α i.content)
          (Message.maxPayload α)), rest)
      else
        match Bytes.splitExact? (Message.announced α i.content) rest with
        | some (payload, a :: b :: rest) =>
          if [a, b] = trailer then (.ok (i.node, i.content ++ payload), rest)
          else (.error (.badTrailer a b), rest)
        | _ => (.error (.closed .ended), []) := by
  obtain ⟨noise, node, header⟩ := i
  obtain ⟨hnoise, rfl⟩ := h
  dsimp only at hlength ⊢
  have hstart : afterStart (noise ++ (start ++ nodeWire node ++ header) ++ rest) =
      some (nodeWire node ++ (header ++ rest)) := by
    simp only [List.append_assoc]
    exact afterStart_noise_append hnoise _
  have hheader : Bytes.splitExact? (Message.headerLength α) (header ++ rest) =
      some (header, rest) :=
    Bytes.splitExact?_eq_some_iff.2 ⟨hlength, rfl⟩
  rw [readRaw, hstart]
  dsimp only
  rw [splitNode?_nodeWire_append]
  dsimp only
  rewrite [hheader]
  rfl

/-- A read compares the two bytes that follow a body with the end of a frame. -/
theorem readRaw_body {i : Item Bytes} (h : i.Clean withNode) (hfits : Fits α i.content)
    (a b : UInt8) (rest : Bytes) :
    readRaw α withNode (i.noise ++ (start ++ nodeWire i.node ++ i.content ++ [a, b]) ++ rest) =
      if [a, b] = trailer then (.ok (i.node, i.content), rest)
      else (.error (.badTrailer a b), rest) := by
  obtain ⟨noise, node, body⟩ := i
  obtain ⟨hlength, hle⟩ := hfits
  dsimp only at hlength hle ⊢
  have hheader : (body.take (Message.headerLength α)).length = Message.headerLength α := by
    rw [List.length_take]
    omega
  have hpayload : Bytes.splitExact?
      (Message.announced α (body.take (Message.headerLength α)))
      (body.drop (Message.headerLength α) ++ (a :: b :: rest)) =
        some (body.drop (Message.headerLength α), a :: b :: rest) := by
    rw [Bytes.splitExact?_eq_some_iff, List.length_drop]
    exact ⟨by omega, rfl⟩
  have hread := readRaw_header (i := ⟨noise, node, body.take (Message.headerLength α)⟩)
    ⟨h.noise, h.isSome_node⟩ hheader (body.drop (Message.headerLength α) ++ (a :: b :: rest))
  dsimp only at hread
  rw [if_neg (Nat.not_lt.2 hle), hpayload] at hread
  dsimp only at hread
  rw [List.take_append_drop] at hread
  rw [← hread]
  congr 1
  simp only [List.append_assoc, List.cons_append, List.nil_append]
  rw [← List.append_assoc (body.take _), List.take_append_drop]

/-- **A read takes one item**, whatever follows it. -/
theorem readRaw_item {i : Item Bytes} (h : i.Clean withNode) (hfits : Fits α i.content)
    (rest : Bytes) :
    readRaw α withNode (i.wire ++ rest) = (.ok (i.node, i.content), rest) := by
  show readRaw α withNode
    (i.noise ++ (start ++ nodeWire i.node ++ i.content ++ [0x21, 0x23]) ++ rest) = _
  rw [readRaw_body h hfits, if_pos (show [0x21, 0x23] = trailer from rfl)]

/-- **A message that is written is read**, whatever follows it. -/
theorem read_write [Message.Faithful α] {m : α} (h : Message.Faithful.Sound m)
    (node : Option NodeId) (rest : Bytes) :
    read α node.isSome (write node m ++ rest) =
      (.ok (node, Message.Faithful.received m), rest) := by
  have hraw := readRaw_item (Item.clean_nil node (Message.encode m)) (Message.Faithful.fits h) rest
  dsimp only [Item.wire, List.nil_append] at hraw
  rw [read, write, hraw]
  dsimp only
  rw [decoded, Message.Faithful.decode_encode h]

/-- A packet with too long a payload is given up after its header. -/
theorem read_write_of_maxPayload_lt {p : Packet} (h : Packet.maxPayload < p.payload.length)
    (h' : p.payload.length ≤ 65535) (node : Option NodeId) (rest : Bytes) :
    read Packet node.isSome (write node p ++ rest) =
      (.error (.oversized .network p.payload.length Packet.maxPayload),
        p.payload ++ trailer ++ rest) := by
  have hlong : p.payload.length > Message.maxPayload Packet := h
  have hraw : readRaw Packet node.isSome _ = _ :=
    readRaw_header (Item.clean_nil node p.header) rfl (p.payload ++ trailer ++ rest)
  dsimp only [List.nil_append] at hraw
  rw [Packet.announced_header h', if_pos hlong] at hraw
  have hwire : write node p ++ rest =
      start ++ nodeWire node ++ p.header ++ (p.payload ++ trailer ++ rest) := by
    show start ++ nodeWire node ++ (p.header ++ p.payload) ++ trailer ++ rest = _
    simp only [List.append_assoc]
  rw [read, hwire, hraw]
  rfl

/-! ### All reads -/

/-- **The reads of a stream take its items one by one.** -/
theorem readAllRaw_wire {items : List (Item Bytes)}
    (h : ∀ i ∈ items, i.Clean withNode ∧ Fits α i.content) :
    readAllRaw α withNode (items.flatMap Item.wire) =
      readings Item.wire (fun i => .ok (i.node, i.content)) items := by
  induction items with
  | nil =>
    rw [readAllRaw]
    rfl
  | cons i items ih =>
    obtain ⟨hclean, hfits⟩ := h i List.mem_cons_self
    have hread := readRaw_item hclean hfits (items.flatMap Item.wire)
    have hrest := ih fun j hj => h j (List.mem_cons_of_mem _ hj)
    have hgoes : isEnd (.ok (i.node, i.content) : Except FrameError _) = false := rfl
    rw [readAllRaw, List.flatMap_cons, hread, readings]
    dsimp only
    rw [dif_pos hgoes, hrest]

theorem map_readings {β γ δ : Type} (wire : Item β → Bytes)
    (result : Item β → Except FrameError γ) {f : Except FrameError γ → Except FrameError δ}
    (hf : f (.error (.closed .ended)) = .error (.closed .ended)) (items : List (Item β)) :
    (readings wire result items).map (fun r => (f r.1, r.2)) =
      readings wire (fun i => f (result i)) items := by
  induction items with
  | nil => rw [readings, readings, List.map_singleton, hf]
  | cons i items ih => rw [readings, readings, List.map_cons, ih]

/-- A stream of messages is a stream of their bytes. -/
theorem readings_encoded {γ : Type} (result : Item Bytes → Except FrameError γ)
    (items : List (Item α)) :
    readings Item.wire result (items.map Item.encoded) =
      readings Item.written (fun i => result i.encoded) items := by
  induction items with
  | nil => rfl
  | cons i items ih =>
    rw [List.map_cons, readings, readings, ih, List.flatMap_map]
    rfl

theorem readings_congr {β γ : Type} {wire : Item β → Bytes}
    {result result' : Item β → Except FrameError γ} {items : List (Item β)}
    (h : ∀ i ∈ items, result i = result' i) :
    readings wire result items = readings wire result' items := by
  induction items with
  | nil => rfl
  | cons i items ih =>
    rw [readings, readings, h i List.mem_cons_self, ih fun j hj => h j (List.mem_cons_of_mem _ hj)]

/-- **Streams of frames are read as they were written.**  If what stands in front of each frame has
no start of a frame, then the reads of messages get the messages with their nodes, one by one, and
leave the stream behind the frame each time, and the next read finds the end; the reads of bytes
get the bytes of the messages.  The reads of bytes get the bytes in every frame also if they are no
messages, and the reads of messages then get what is wrong with them and take no more of the
stream. -/
theorem readAll_written [Message.Faithful α] {messages : List (Item α)} {bodies : List (Item Bytes)}
    (hmessages : ∀ i ∈ messages, i.Clean withNode ∧ Message.Faithful.Sound i.content)
    (hbodies : ∀ i ∈ bodies, i.Clean withNode ∧ Fits α i.content) :
    readAll α withNode (messages.flatMap Item.written) =
        readings Item.written (fun i => .ok (i.node, Message.Faithful.received i.content))
          messages ∧
      readAllRaw α withNode (messages.flatMap Item.written) =
        readings Item.written (fun i => .ok (i.node, Message.encode i.content)) messages ∧
      readAllRaw α withNode (bodies.flatMap Item.wire) =
        readings Item.wire (fun i => .ok (i.node, i.content)) bodies ∧
      readAll α withNode (bodies.flatMap Item.wire) =
        readings Item.wire (fun i => decoded α (.ok (i.node, i.content))) bodies := by
  have hraw : ∀ {items : List (Item Bytes)}, (∀ i ∈ items, i.Clean withNode ∧ Fits α i.content) →
      readAll α withNode (items.flatMap Item.wire) =
        readings Item.wire (fun i => decoded α (.ok (i.node, i.content))) items := by
    intro items h
    rw [readAll, readAllRaw_wire h]
    exact map_readings _ _ rfl items
  have hencoded : ∀ i ∈ messages.map Item.encoded, i.Clean withNode ∧ Fits α i.content := by
    intro i hi
    obtain ⟨m, hm, rfl⟩ := List.mem_map.1 hi
    obtain ⟨hclean, hsound⟩ := hmessages m hm
    exact ⟨⟨hclean.noise, hclean.isSome_node⟩, Message.Faithful.fits hsound⟩
  have hwritten : messages.flatMap Item.written =
      (messages.map Item.encoded).flatMap Item.wire := by
    rw [List.flatMap_map]
    rfl
  rw [hwritten]
  refine ⟨?_, ?_, readAllRaw_wire hbodies, hraw hbodies⟩
  · rw [hraw hencoded, readings_encoded]
    refine readings_congr fun i hi => ?_
    show decoded α (.ok (i.node, Message.encode i.content)) = _
    rw [decoded, Message.Faithful.decode_encode (hmessages i hi).2]
  · rw [readAllRaw_wire hencoded, readings_encoded]
    rfl

/-- Two segments behind noise that ends with half a start; the first one carries the marks of a
frame. -/
def sampleMessages : List (Item Segment) :=
  [⟨[0, 0x21], some 7, Segment.dataOf 87 88 1 [0x21, 0x26, 0x21, 0x23]⟩,
    ⟨[], some 8, Segment.synOf 87 88 4294967295⟩]

/-- A body without a checksum, and one of an unknown kind. -/
def sampleBodies : List (Item Bytes) :=
  [⟨[0x26, 0x21], some 7, List.replicate 24 0⟩,
    ⟨[], some 8, Segment.wire { kind := .unknown, payload := [0x21, 0x26] }⟩]

/-- Segments are found behind the sample noise, and the sample bodies cost a frame each. -/
theorem readAll_written_sample :
    readAll Segment true (sampleMessages.flatMap Item.written) =
        readings Item.written (fun i => .ok (i.node, i.content.stamped)) sampleMessages ∧
      (readAll Segment true (sampleBodies.flatMap Item.wire)).map (·.1) =
        [.error (.undecodable (.segment (.badChecksum 65535))),
          .error (.undecodable (.segment (.unknownKind 6))), .error (.closed .ended)] := by
  have hmessages : ∀ i ∈ sampleMessages,
      i.Clean true ∧ Message.Faithful.Sound i.content := by
    intro i hi
    simp only [sampleMessages, List.mem_cons, List.not_mem_nil, or_false] at hi
    rcases hi with rfl | rfl
    · exact ⟨⟨by decide, rfl⟩, by decide, by decide⟩
    · exact ⟨⟨by decide, rfl⟩, by decide, by decide⟩
  have hbodies : ∀ i ∈ sampleBodies, i.Clean true ∧ Fits Segment i.content := by
    intro i hi
    simp only [sampleBodies, List.mem_cons, List.not_mem_nil, or_false] at hi
    rcases hi with rfl | rfl
    · exact ⟨⟨by decide, rfl⟩, by decide, by decide⟩
    · exact ⟨⟨by decide, rfl⟩, Segment.fits_wire (by decide)⟩
  obtain ⟨hread, -, -, hfault⟩ := readAll_written hmessages hbodies
  refine ⟨hread, ?_⟩
  rw [hfault]
  decide +kernel

end Frame

end OverlayStack
