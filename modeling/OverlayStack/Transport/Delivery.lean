import OverlayStack.Impairment
import OverlayStack.Transport.Status
import OverlayStack.Wire.Frame

/-!
# Segments on their way in

A segment reaches the transport layer as bytes, which the link may have damaged.  Bytes that are no
segment any more are dropped, and nothing else comes of them.

## Main definitions

* `Transport.Delivery` — a segment with the node it comes from, or a message that was dropped.
* `Transport.Delivery.ofWire` — what becomes of the bytes of a segment.
* `Transport.sendFramed`, `Transport.receiveFramed` — segments on the stream to the network layer.
-/

namespace OverlayStack.Transport

/-- What the link delivers. -/
inductive Delivery where
  /-- A segment and the node that it comes from. -/
  | segment (source : NodeId) (s : Segment)
  /-- A message that was lost or damaged, or that is no segment. -/
  | dropped
  deriving DecidableEq, Repr

/-- What becomes of the bytes of a segment from a node, after what happened to them on the link. -/
def Delivery.ofWire (o : Outcome) (source : NodeId) (bs : Bytes) : Delivery :=
  match o.arrival? bs with
  | none => dropped
  | some bs =>
    match Segment.read bs with
    | .error _ => dropped
    | .ok s => segment source s

/-- What becomes of the bytes of a segment, and the link's impairment afterwards.  A link without an
impairment delivers everything as it is. -/
def deliver (impairment : Option Impairment) (source : NodeId) (bs : Bytes) :
    Delivery × Option Impairment :=
  match impairment with
  | none => (Delivery.ofWire .delivered source bs, none)
  | some i =>
    let (o, i) := i.draw bs
    (Delivery.ofWire o source bs, some i)

/-- The transport layer cannot use a stream any more. -/
def streamClosed (e : FrameError) : Error :=
  .transportClosed e.message

/-- The bytes that a segment for a node puts on the stream to the network layer, unless the stream
has a fault. -/
def sendFramed (fault : Option LinkFault) (dest : NodeId) (s : Segment) : Except Error Bytes :=
  match fault with
  | none => .ok (Frame.write (some dest) s)
  | some f => .error (streamClosed (.closed f))

/-- The next delivery from the stream from the network layer, with the impairment and the stream
afterwards. -/
def receiveFramed (impairment : Option Impairment) (stream : Bytes) :
    Except Error Delivery × Option Impairment × Bytes :=
  match Frame.readRaw Segment true stream with
  | (.ok (source, body), rest) =>
    let (d, impairment) := deliver impairment (source.getD 0) body
    (.ok d, impairment, rest)
  | (.error e, rest) =>
    (if e.isFatal then .error (streamClosed e) else .ok .dropped, impairment, rest)

/-- A delivery shortens the stream. -/
theorem length_receiveFramed_lt {impairment : Option Impairment} {stream : Bytes} {d : Delivery}
    (h : (receiveFramed impairment stream).1 = .ok d) :
    (receiveFramed impairment stream).2.2.length < stream.length := by
  have key : Frame.isEnd (Frame.readRaw Segment true stream).1 = false →
      (Frame.readRaw Segment true stream).2.length < stream.length := fun hend => by
    have := Frame.length_readRaw_lt hend
    omega
  revert h key
  rw [receiveFramed]
  split
  · next hread => simp [hread, Frame.isEnd]
  · next e rest hread =>
    rw [hread]
    intro h key
    split at h
    · simp at h
    · next hfatal => exact key (by simpa [Frame.isEnd] using hfatal)

/-- Everything that is delivered from the stream from the network layer, up to its end. -/
def receiveAllFramed (impairment : Option Impairment) (stream : Bytes) :
    List (Except Error Delivery) :=
  let step := receiveFramed impairment stream
  match _h : step.1 with
  | .error e => [.error e]
  | .ok d => .ok d :: receiveAllFramed step.2.1 step.2.2
termination_by stream.length
decreasing_by exact length_receiveFramed_lt _h

end OverlayStack.Transport
