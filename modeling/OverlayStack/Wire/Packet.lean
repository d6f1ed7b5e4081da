import OverlayStack.Node
import OverlayStack.Wire.Segment

/-!
# Packets and route updates

A packet carries a segment or a route update from one node of the overlay to another.  On the wire
it has a header of 12 bytes and then the payload.  A route update is a list of nodes with costs.

## Main definitions

* `RouteUpdate`, `RouteUpdate.wire`, `RouteUpdate.read` — route updates and their bytes.
* `RouteUpdate.failedNode?` — the node whose failure an update reports.
* `PacketKind`, `Packet`, `Packet.wire`, `Packet.read` — packets and their bytes.
* `Packet.ofSegment`, `Packet.ofUpdate`, `Packet.failureNotice` — the packets that nodes send.
-/

namespace OverlayStack

/-! ### Route updates -/

/-- What a node tells others about the costs of reaching nodes. -/
structure RouteUpdate where
  /-- Nodes with the costs of reaching them. -/
  entries : List (NodeId × Cost)
  deriving DecidableEq, Repr

namespace RouteUpdate

/-- What can be wrong with the bytes of a route update. -/
inductive ReadError where
  /-- There are fewer bytes than the count has. -/
  | tooShort (length : Nat)
  /-- The count of entries does not fit the bytes that follow. -/
  | wrongCount (announced following : Nat)
  deriving DecidableEq, Repr

/-- The wording of a read error. -/
def ReadError.message : ReadError → String
  | tooShort length => s!"Route update is {length} bytes, too short."
  | wrongCount announced following =>
    s!"Route update announces {announced} entries but carries {following} bytes."

/-- The update that reports the failure of a node. -/
def failure (node : NodeId) : RouteUpdate :=
  ⟨[(node, infiniteCost)]⟩

/-- The failed node, if an update reports a failure: a single entry, with an infinite cost. -/
def failedNode? : RouteUpdate → Option NodeId
  | ⟨[(node, cost)]⟩ => if infiniteCost ≤ cost then some node else none
  | _ => none

/-- The bytes of one entry. -/
def entryWire (e : NodeId × Cost) : Bytes :=
  Bytes.ofWord32 e.1 ++ Bytes.ofWord32 e.2

/-- The bytes of a route update: the number of entries and the entries. -/
def wire (u : RouteUpdate) : Bytes :=
  Bytes.ofWord32 (UInt32.ofNat u.entries.length) ++ u.entries.flatMap entryWire

/-- The first entries in a byte string. -/
def splitEntries? : Nat → Bytes → Option (List (NodeId × Cost))
  | 0, _ => some []
  | n + 1, bs => do
    let (node, bs) ← Bytes.splitWord32? bs
    let (cost, bs) ← Bytes.splitWord32? bs
    let rest ← splitEntries? n bs
    return (node, cost) :: rest

/-- The route update in a byte string. -/
def read (bs : Bytes) : Except ReadError RouteUpdate :=
  match Bytes.splitWord32? bs with
  | none => .error (.tooShort bs.length)
  | some (count, rest) =>
    let wrong := ReadError.wrongCount count.toNat rest.length
    if rest.length = 8 * count.toNat then
      match splitEntries? count.toNat rest with
      | none => .error wrong
      | some entries => .ok ⟨entries⟩
    else .error wrong

end RouteUpdate

/-! ### Packets -/

/-- The kinds of packets. -/
inductive PacketKind where
  /-- Carries a route update. -/
  | routeUpdate
  /-- Carries a segment. -/
  | data
  /-- Any kind that the protocol does not know. -/
  | unknown
  deriving DecidableEq, Repr

namespace PacketKind

/-- The code of a kind on the wire. -/
def code : PacketKind → UInt16
  | routeUpdate => 1
  | data => 2
  | unknown => 3

/-- The kind that a code stands for. -/
def ofCode (code : UInt16) : PacketKind :=
  if code = 1 then routeUpdate else if code = 2 then data else unknown

/-- The name of a kind. -/
def name : PacketKind → String
  | routeUpdate => "ROUTE_UPDATE"
  | data => "SIP"
  | unknown => "UNKNOWN"

/-- All kinds. -/
def all : List PacketKind :=
  [routeUpdate, data, unknown]

/-- The kind of a given name. -/
def ofName? (name : String) : Option PacketKind :=
  all.find? fun k => k.name == name

@[simp] theorem ofCode_code (k : PacketKind) : ofCode k.code = k := by
  cases k <;> rfl

end PacketKind

/-- The fields of a packet. -/
structure Packet where
  /-- The node it comes from.  A relayed notice of a failure has its hop budget here. -/
  source : NodeId := 0
  /-- The node it goes to. -/
  dest : NodeId := 0
  /-- What it carries. -/
  kind : PacketKind := .data
  /-- The bytes that it carries. -/
  payload : Bytes := []
  deriving DecidableEq, Repr

namespace Packet

/-- The length of the header. -/
def headerLength : Nat := 12

/-- The most bytes that one packet carries across a link: a whole segment. -/
def maxPayload : Nat := Segment.headerLength + Segment.maxPayload

/-- What can be wrong with the bytes of a packet. -/
inductive ReadError where
  /-- There are fewer bytes than a header has. -/
  | shortHeader (length : Nat)
  /-- The header announces another length than that of the bytes that follow. -/
  | wrongLength (announced following : Nat)
  /-- The code of the kind has no meaning. -/
  | unknownKind (code : UInt16)
  deriving DecidableEq, Repr

/-- The wording of a read error. -/
def ReadError.message : ReadError → String
  | shortHeader length =>
    s!"SIP packet length is {length}, must be at least the header length ({headerLength})."
  | wrongLength announced following =>
    s!"SIP header announces {announced} payload bytes but {following} bytes follow."
  | unknownKind code => s!"Unknown SIP packet type {code}."

/-- The packet that takes the bytes of a segment to a node. -/
def ofSegment (source dest : NodeId) (segment : Bytes) : Packet :=
  { source, dest, kind := .data, payload := segment }

/-- The packet that takes a route update to every neighbor. -/
def ofUpdate (source : NodeId) (u : RouteUpdate) : Packet :=
  { source, dest := broadcastId, kind := .routeUpdate, payload := u.wire }

/-- The packet that tells every neighbor of the failure of a node. -/
def failureNotice (node : NodeId) : Packet :=
  ofUpdate node (.failure node)

/-- The line that describes a packet. -/
def summary (p : Packet) : String :=
  s!"{p.kind.name} {p.source}->{p.dest} len={p.payload.length}"

/-- The header of a packet. -/
def header (p : Packet) : Bytes :=
  Bytes.ofWord32 p.source ++ Bytes.ofWord32 p.dest ++
    Bytes.ofWord16 (UInt16.ofNat p.payload.length) ++ Bytes.ofWord16 p.kind.code

/-- The bytes of a packet on the wire. -/
def wire (p : Packet) : Bytes :=
  p.header ++ p.payload

@[simp] theorem length_header (p : Packet) : p.header.length = headerLength := rfl

/-- The announced length and the code of the kind in a byte string, and the packet that has all
bytes after the header as its payload. -/
def split? (bs : Bytes) : Option (UInt16 × UInt16 × Packet) := do
  let (source, bs) ← Bytes.splitWord32? bs
  let (dest, bs) ← Bytes.splitWord32? bs
  let (length, bs) ← Bytes.splitWord16? bs
  let (code, payload) ← Bytes.splitWord16? bs
  return (length, code, { source, dest, kind := PacketKind.ofCode code, payload })

/-- The packet in a byte string. -/
def read (bs : Bytes) : Except ReadError Packet :=
  match split? bs with
  | none => .error (.shortHeader bs.length)
  | some (length, code, p) =>
    if p.payload.length ≠ length.toNat then .error (.wrongLength length.toNat p.payload.length)
    else if p.kind = .unknown then .error (.unknownKind code)
    else .ok p

end Packet

end OverlayStack
