import OverlayStack.Wire.Packet

/-!
# Frames on a stream

A message crosses a stream in a frame: the two bytes `!&`, in some streams the number of a node, the
message and the two bytes `!#`.  The message has a header of fixed length, which announces the
length of its payload.  A reader looks for the first `!&`, so that it finds its way after bytes that
are no frame.

A read either gets a message, or finds something that costs one frame, or reaches the end of the
stream.  `length_readRaw_lt` says that a read that does not reach the end shortens the stream, so
that `readAll` ends.

## Main definitions

* `Message` — the messages that can be framed.
* `LinkFault`, `FrameError` — what can go wrong on a stream.
* `Frame.wire`, `Frame.write` — the bytes of a frame.
* `Frame.readRaw`, `Frame.read` — the next frame of a stream, and the stream after it.
* `Frame.readAll` — the frames up to the end of a stream.
* `Frame.readAvailable` — the frames that are complete in a stream that goes on.
* `Sink` — a stream with room for a limited number of bytes.
-/

namespace OverlayStack

/-! ### Messages -/

/-- What can make the bytes of a message unreadable. -/
inductive MessageError where
  /-- The bytes are no segment. -/
  | segment (e : Segment.ReadError)
  /-- The bytes are no packet. -/
  | packet (e : Packet.ReadError)
  deriving DecidableEq, Repr

/-- The wording of a message error. -/
def MessageError.message : MessageError → String
  | segment e => e.message
  | packet e => e.message

/-- The layers whose messages are framed. -/
inductive Layer where
  /-- The layer of segments. -/
  | transport
  /-- The layer of packets. -/
  | network
  deriving DecidableEq, Repr

/-- The name of a layer's protocol. -/
def Layer.name : Layer → String
  | transport => "STCP"
  | network => "SIP"

/-- Messages with a header of fixed length that announces the length of the payload. -/
class Message (α : Type) where
  /-- The layer that the messages belong to. -/
  layer : Layer
  /-- The length of the header. -/
  headerLength : Nat
  /-- Where in the header the two bytes of the payload's length stand. -/
  lengthOffset : Nat
  /-- The most bytes that the payload of a framed message has. -/
  maxPayload : Nat
  /-- The bytes of a message. -/
  encode : α → Bytes
  /-- The message in a byte string. -/
  decode : Bytes → Except MessageError α

instance : Message Segment where
  layer := .transport
  headerLength := Segment.headerLength
  lengthOffset := 20
  maxPayload := Segment.maxPayload
  encode := Segment.wire
  decode bs := (Segment.read bs).mapError .segment

instance : Message Packet where
  layer := .network
  headerLength := Packet.headerLength
  lengthOffset := 8
  maxPayload := Packet.maxPayload
  encode := Packet.wire
  decode bs := (Packet.read bs).mapError .packet

/-- The length of the payload that a header announces. -/
def Message.announced (α : Type) [Message α] (header : Bytes) : Nat :=
  match Bytes.splitWord16? (header.drop (Message.lengthOffset α)) with
  | none => 0
  | some (length, _) => length.toNat

/-! ### Errors -/

/-- What can end a stream. -/
inductive LinkFault where
  /-- The stream ended within a read. -/
  | ended
  /-- The stream takes no more bytes. -/
  | full
  /-- There is no stream. -/
  | absent
  /-- The far end has hung up. -/
  | hungUp
  deriving DecidableEq, Repr

/-- The wording of a link fault. -/
def LinkFault.message : LinkFault → String
  | ended => "failed to fill whole buffer"
  | full => "failed to write whole buffer"
  | absent => "not connected"
  | hungUp => "Broken pipe (os error 32)"

/-- What can go wrong with a frame. -/
inductive FrameError where
  /-- The stream cannot be used any more. -/
  | closed (fault : LinkFault)
  /-- Other bytes stand where a frame should end. -/
  | badTrailer (first second : UInt8)
  /-- The header announces more payload than a frame may have. -/
  | oversized (layer : Layer) (announced limit : Nat)
  /-- The bytes between start and end are no message. -/
  | undecodable (e : MessageError)
  deriving DecidableEq, Repr

namespace FrameError

/-- The wording of a frame error. -/
def message : FrameError → String
  | closed fault => s!"Link is closed. Err: {fault.message}"
  | badTrailer first second =>
    s!"Frame trailer mismatch, got [{Text.hexByte first}, {Text.hexByte second}]."
  | oversized layer announced limit =>
    s!"Malformed message. {layer.name} payload length {announced} exceeds {limit}."
  | undecodable e => s!"Malformed message. {e.message}"

/-- Whether an error ends the stream.  The others cost one frame. -/
def isFatal : FrameError → Bool
  | closed _ => true
  | _ => false

end FrameError

namespace Frame

/-! ### Writing -/

/-- The two bytes that start a frame. -/
def start : Bytes := [0x21, 0x26]

/-- The two bytes that end a frame. -/
def trailer : Bytes := [0x21, 0x23]

/-- The bytes of the node in a frame, if it has one. -/
def nodeWire : Option NodeId → Bytes
  | none => []
  | some node => Bytes.ofWord32 node

/-- The bytes of a frame around the bytes of a message. -/
def wire (node : Option NodeId) (body : Bytes) : Bytes :=
  start ++ nodeWire node ++ body ++ trailer

/-- The bytes of a frame around a message. -/
def write {α : Type} [Message α] (node : Option NodeId) (message : α) : Bytes :=
  wire node (Message.encode message)

/-! ### Reading -/

/-- What stands after the first start of a frame. -/
def afterStart : Bytes → Option Bytes
  | a :: b :: rest => if a = 0x21 ∧ b = 0x26 then some rest else afterStart (b :: rest)
  | _ => none

/-- The node at the front of a byte string, if one is to be there. -/
def splitNode? (withNode : Bool) (bs : Bytes) : Option (Option NodeId × Bytes) :=
  if withNode then (Bytes.splitWord32? bs).map fun (node, rest) => (some node, rest)
  else some (none, bs)

/-- The next frame of a stream, with the bytes of its message, and the stream after the read.  A
read that reaches the end leaves nothing; one that finds too long a message leaves what follows the
header. -/
def readRaw (α : Type) [Message α] (withNode : Bool) (stream : Bytes) :
    Except FrameError (Option NodeId × Bytes) × Bytes :=
  let ended := (.error (.closed .ended), [])
  match afterStart stream with
  | none => ended
  | some rest =>
    match splitNode? withNode rest with
    | none => ended
    | some (node, rest) =>
      match Bytes.splitExact? (Message.headerLength α) rest with
      | none => ended
      | some (header, rest) =>
        let length := Message.announced α header
        if length > Message.maxPayload α then
          (.error (.oversized (Message.layer α) length (Message.maxPayload α)), rest)
        else
          match Bytes.splitExact? length rest with
          | some (payload, a :: b :: rest) =>
            if [a, b] = trailer then (.ok (node, header ++ payload), rest)
            else (.error (.badTrailer a b), rest)
          | _ => ended

/-- The message in the bytes that a read has got. -/
def decoded (α : Type) [Message α] :
    Except FrameError (Option NodeId × Bytes) → Except FrameError (Option NodeId × α)
  | .error e => .error e
  | .ok (node, body) =>
    match Message.decode body with
    | .error e => .error (.undecodable e)
    | .ok message => .ok (node, message)

/-- The next frame of a stream, with its message, and the stream after the read. -/
def read (α : Type) [Message α] (withNode : Bool) (stream : Bytes) :
    Except FrameError (Option NodeId × α) × Bytes :=
  let (result, rest) := readRaw α withNode stream
  (decoded α result, rest)

/-- Whether a read has reached the end of the stream. -/
def isEnd {β : Type} : Except FrameError β → Bool
  | .error e => e.isFatal
  | .ok _ => false

theorem length_afterStart_lt {stream rest : Bytes} (h : afterStart stream = some rest) :
    rest.length + 2 ≤ stream.length := by
  induction stream with
  | nil => simp [afterStart] at h
  | cons a tail ih =>
    match tail, h with
    | b :: tail, h =>
      rw [afterStart] at h
      split at h
      · obtain rfl := Option.some.inj h
        simp
      · have := ih h
        simp only [List.length_cons] at this ⊢
        omega

theorem length_splitNode?_le {withNode : Bool} {bs rest : Bytes} {node : Option NodeId}
    (h : splitNode? withNode bs = some (node, rest)) : rest.length ≤ bs.length := by
  rw [splitNode?] at h
  split at h
  · simp only [Option.map_eq_some_iff, Prod.mk.injEq, Prod.exists] at h
    obtain ⟨w, r, h, -, rfl⟩ := h
    rw [Bytes.splitWord32?_eq_some_iff.1 h]
    simp
  · simp only [Option.some.injEq, Prod.mk.injEq] at h
    simp [h.2]

/-- A read that does not reach the end takes at least the start of a frame and a header. -/
theorem length_readRaw_lt {α : Type} [Message α] {withNode : Bool} {stream : Bytes}
    (h : isEnd (readRaw α withNode stream).1 = false) :
    (readRaw α withNode stream).2.length + (2 + Message.headerLength α) ≤ stream.length := by
  revert h
  rw [readRaw]
  split
  · simp [isEnd, FrameError.isFatal]
  · next rest hstart =>
    have hs := length_afterStart_lt hstart
    split
    · simp [isEnd, FrameError.isFatal]
    · next node afterNode hnode =>
      have hn := length_splitNode?_le hnode
      split
      · simp [isEnd, FrameError.isFatal]
      · next header afterHeader hheader =>
        obtain ⟨hl, hr⟩ := Bytes.splitExact?_eq_some_iff.1 hheader
        have hlen : afterNode.length = Message.headerLength α + afterHeader.length := by
          rw [hr, List.length_append, hl]
        dsimp only
        split
        · intro _; simp only; omega
        · split
          · next payload a b afterTrailer hpayload =>
            obtain ⟨hp, hpr⟩ := Bytes.splitExact?_eq_some_iff.1 hpayload
            have : afterHeader.length = payload.length + (afterTrailer.length + 2) := by
              rw [hpr]; simp
            split <;> intro _ <;> simp only <;> omega
          · simp [isEnd, FrameError.isFatal]

/-! ### Whole streams -/

/-- The results of reading a stream to its end, each with the stream after it.  The last one is the
read that reaches the end. -/
def readAllRaw (α : Type) [Message α] (withNode : Bool) (stream : Bytes) :
    List (Except FrameError (Option NodeId × Bytes) × Bytes) :=
  let step := readRaw α withNode stream
  if _h : isEnd step.1 = false then step :: readAllRaw α withNode step.2 else [step]
termination_by stream.length
decreasing_by have := length_readRaw_lt _h; omega

/-- The results of reading the messages of a stream to its end, each with the stream after it. -/
def readAll (α : Type) [Message α] (withNode : Bool) (stream : Bytes) :
    List (Except FrameError (Option NodeId × α) × Bytes) :=
  (readAllRaw α withNode stream).map fun (result, rest) => (decoded α result, rest)

/-- The results of the reads that are complete in what has arrived of a stream, and what has arrived
beyond them. -/
def readAvailable (α : Type) [Message α] (withNode : Bool) (stream : Bytes) :
    List (Except FrameError (Option NodeId × Bytes)) × Bytes :=
  let step := readRaw α withNode stream
  if _h : isEnd step.1 = false then
    let (results, rest) := readAvailable α withNode step.2
    (step.1 :: results, rest)
  else ([], stream)
termination_by stream.length
decreasing_by have := length_readRaw_lt _h; omega

end Frame

/-! ### Streams of limited length -/

/-- A stream that takes a limited number of bytes. -/
structure Sink where
  /-- How many bytes it takes in all. -/
  capacity : Nat
  /-- The bytes that it has taken. -/
  taken : Bytes := []

/-- The stream after bytes were written to it, which fails once it is full. -/
def Sink.write (s : Sink) (bs : Bytes) : Except FrameError Unit × Sink :=
  let room := s.capacity - s.taken.length
  let next := { s with taken := s.taken ++ bs.take room }
  (if bs.length ≤ room then .ok () else .error (.closed .full), next)

end OverlayStack
