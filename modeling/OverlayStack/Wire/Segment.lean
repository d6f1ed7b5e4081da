import OverlayStack.Text.Number
import OverlayStack.Wire.Checksum

/-!
# Segments

A segment is the unit that two ends of a connection exchange.  On the wire it has a header of 24
bytes, which names the ports, the position in the stream, the kind and the length and carries a
checksum over the whole segment, and then the payload.

## Main definitions

* `SegmentKind` — the kinds of segments and their codes.
* `Segment` — the fields of a segment.
* `Segment.stamped`, `Segment.wire` — a segment as it is sent, with its length and checksum.
* `Segment.read` — the segment in a byte string, or what is wrong with it.
* `Segment.reply` — an answer to the sender of a segment.
-/

namespace OverlayStack

/-- The kinds of segments. -/
inductive SegmentKind where
  /-- Asks for a connection. -/
  | syn
  /-- Grants a connection. -/
  | synAck
  /-- Asks to end a connection. -/
  | fin
  /-- Confirms the end of a connection. -/
  | finAck
  /-- Carries a piece of the stream. -/
  | data
  /-- Says how far the stream has arrived. -/
  | dataAck
  /-- Any kind that the protocol does not know. -/
  | unknown
  deriving DecidableEq, Repr

namespace SegmentKind

/-- The code of a kind on the wire. -/
def code : SegmentKind → UInt16
  | syn => 0
  | synAck => 1
  | fin => 2
  | finAck => 3
  | data => 4
  | dataAck => 5
  | unknown => 6

/-- The kind that a code stands for. -/
def ofCode (code : UInt16) : SegmentKind :=
  if code = 0 then syn
  else if code = 1 then synAck
  else if code = 2 then fin
  else if code = 3 then finAck
  else if code = 4 then data
  else if code = 5 then dataAck
  else unknown

/-- The name of a kind. -/
def name : SegmentKind → String
  | syn => "SYN"
  | synAck => "SYN_ACK"
  | fin => "FIN"
  | finAck => "FIN_ACK"
  | data => "DATA"
  | dataAck => "DATA_ACK"
  | unknown => "UNKNOWN"

/-- All kinds. -/
def all : List SegmentKind :=
  [syn, synAck, fin, finAck, data, dataAck, unknown]

/-- The kind of a given name. -/
def ofName? (name : String) : Option SegmentKind :=
  all.find? fun k => k.name == name

@[simp] theorem ofCode_code (k : SegmentKind) : ofCode k.code = k := by
  cases k <;> rfl

end SegmentKind

/-- The fields of a segment. -/
structure Segment where
  /-- The port it comes from. -/
  sourcePort : UInt32 := 0
  /-- The port it goes to. -/
  destPort : UInt32 := 0
  /-- The position in the stream of its first byte. -/
  seq : UInt32 := 0
  /-- The position that the sender expects next. -/
  ack : UInt32 := 0
  /-- What it is for. -/
  kind : SegmentKind := .syn
  /-- How many bytes the sender can take. -/
  window : UInt16 := 0
  /-- The length of the payload, as the header states it. -/
  length : UInt16 := 0
  /-- The checksum, as the header states it. -/
  checksum : UInt16 := 0
  /-- The bytes that it carries. -/
  payload : Bytes := []
  deriving DecidableEq, Repr

namespace Segment

/-- The length of the header. -/
def headerLength : Nat := 24

/-- The most bytes that one segment carries across a link. -/
def maxPayload : Nat := 1464

/-- What can be wrong with the bytes of a segment. -/
inductive ReadError where
  /-- There are fewer bytes than a header has. -/
  | shortHeader (length : Nat)
  /-- The header announces another length than that of the bytes that follow. -/
  | wrongLength (announced following : Nat)
  /-- The checksum of the whole segment is not zero. -/
  | badChecksum (residue : UInt16)
  /-- The code of the kind has no meaning. -/
  | unknownKind (code : UInt16)
  deriving DecidableEq, Repr

/-- The wording of a read error. -/
def ReadError.message : ReadError → String
  | shortHeader length =>
    s!"STCP segment length is {length}, must be at least the header length ({headerLength})."
  | wrongLength announced following =>
    s!"STCP header announces {announced} payload bytes but {following} bytes follow."
  | badChecksum residue =>
    s!"STCP segment has bad checksum (residue 0x{Text.hex residue.toNat})."
  | unknownKind code => s!"Unknown STCP segment type {code}."

/-! ### Building segments -/

/-- A segment that asks for a connection. -/
def synOf (sourcePort destPort seq : UInt32) : Segment :=
  { sourcePort, destPort, seq, kind := .syn }

/-- A segment that asks to end a connection. -/
def finOf (sourcePort destPort seq : UInt32) : Segment :=
  { sourcePort, destPort, seq, kind := .fin }

/-- A segment that carries a piece of the stream. -/
def dataOf (sourcePort destPort seq : UInt32) (payload : Bytes) : Segment :=
  { sourcePort, destPort, seq, kind := .data, length := UInt16.ofNat payload.length, payload }

/-- An answer to the sender of a segment. -/
def reply (s : Segment) (kind : SegmentKind) (ack : UInt32) : Segment :=
  { sourcePort := s.destPort, destPort := s.sourcePort, ack, kind }

/-- The line that describes a segment. -/
def summary (s : Segment) : String :=
  s!"{s.kind.name} {s.sourcePort}->{s.destPort} seq={s.seq} ack={s.ack} len={s.payload.length}"

/-! ### Writing -/

/-- The header of a segment, with its fields as they are. -/
def header (s : Segment) : Bytes :=
  Bytes.ofWord32 s.sourcePort ++ Bytes.ofWord32 s.destPort ++ Bytes.ofWord32 s.seq ++
    Bytes.ofWord32 s.ack ++ Bytes.ofWord16 s.kind.code ++ Bytes.ofWord16 s.window ++
    Bytes.ofWord16 s.length ++ Bytes.ofWord16 s.checksum

/-- The segment with the length of its payload in the header and no checksum. -/
def measured (s : Segment) : Segment :=
  { s with length := UInt16.ofNat s.payload.length, checksum := 0 }

/-- The segment with its length and its checksum, as it is sent. -/
def stamped (s : Segment) : Segment :=
  { s.measured with
    checksum := OverlayStack.checksum (s.measured.header ++ s.payload) }

/-- The bytes of a segment on the wire. -/
def wire (s : Segment) : Bytes :=
  s.stamped.header ++ s.payload

@[simp] theorem length_header (s : Segment) : s.header.length = headerLength := rfl

@[simp] theorem payload_stamped (s : Segment) : s.stamped.payload = s.payload := rfl

/-! ### Reading -/

/-- The fields in a byte string, of which all bytes after the header are the payload, and the code
of the kind. -/
def split? (bs : Bytes) : Option (Segment × UInt16) := do
  let (sourcePort, bs) ← Bytes.splitWord32? bs
  let (destPort, bs) ← Bytes.splitWord32? bs
  let (seq, bs) ← Bytes.splitWord32? bs
  let (ack, bs) ← Bytes.splitWord32? bs
  let (code, bs) ← Bytes.splitWord16? bs
  let (window, bs) ← Bytes.splitWord16? bs
  let (length, bs) ← Bytes.splitWord16? bs
  let (checksum, payload) ← Bytes.splitWord16? bs
  let kind := SegmentKind.ofCode code
  return ({ sourcePort, destPort, seq, ack, kind, window, length, checksum, payload }, code)

/-- Whether the checksum of a whole segment is right. -/
def validate (bs : Bytes) : Except ReadError Unit :=
  let residue := OverlayStack.checksum bs
  if residue = 0 then .ok () else .error (.badChecksum residue)

/-- The segment in a byte string. -/
def read (bs : Bytes) : Except ReadError Segment :=
  match split? bs with
  | none => .error (.shortHeader bs.length)
  | some (s, code) =>
    if s.payload.length ≠ s.length.toNat then
      .error (.wrongLength s.length.toNat s.payload.length)
    else
      match validate bs with
      | .error e => .error e
      | .ok () => if s.kind = .unknown then .error (.unknownKind code) else .ok s

end Segment

end OverlayStack
