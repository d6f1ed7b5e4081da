import OverlayStack.Transport.Delivery

/-!
# Links between two transport layers

A link joins two ends, and carries the bytes of segments from each to the other in the order in
which they were sent.  Each end can have an impairment for what it receives.

## Main definitions

* `Transport.Side`, `Transport.LoopbackEnd`, `Transport.Loopback` — the two ends.
* `Loopback.send` — an end sends a segment.
* `Loopback.receive`, `Loopback.poll` — an end takes the next message, or the next segment.
-/

namespace OverlayStack.Transport

/-- The two sides of a link. -/
inductive Side where
  /-- One side. -/
  | a
  /-- The other side. -/
  | b
  deriving DecidableEq, Repr

/-- The side at the far end. -/
def Side.other : Side → Side
  | a => b
  | b => a

/-- One end of a link. -/
structure LoopbackEnd where
  /-- The node at this end. -/
  node : NodeId
  /-- The messages on their way to this end, with the nodes that they come from. -/
  inbox : List (NodeId × Bytes) := []
  /-- What happens to messages when they are received. -/
  impairment : Option Impairment := none
  /-- Whether this end is still there. -/
  present : Bool := true

/-- A link between two ends. -/
structure Loopback where
  /-- The end on one side. -/
  atA : LoopbackEnd
  /-- The end on the other side. -/
  atB : LoopbackEnd

/-- What an end gets that asks for something. -/
inductive Reception (α : Type) where
  /-- It gets something. -/
  | got (x : α)
  /-- Nothing is there, and something may still come. -/
  | nothing
  /-- Nothing is there, and nothing can come. -/
  | closed (e : Error)

namespace Loopback

/-- The link between two nodes. -/
def pair (a b : NodeId) : Loopback :=
  ⟨{ node := a }, { node := b }⟩

/-- The end on a side. -/
def endAt (l : Loopback) : Side → LoopbackEnd
  | .a => l.atA
  | .b => l.atB

/-- The link with the end on a side set. -/
def setEnd (l : Loopback) (side : Side) (e : LoopbackEnd) : Loopback :=
  match side with
  | .a => { l with atA := e }
  | .b => { l with atB := e }

/-- The link with an impairment for what is received on a side. -/
def impair (l : Loopback) (side : Side) (i : Impairment) : Loopback :=
  l.setEnd side { l.endAt side with impairment := some i }

/-- The link after the end on a side has gone. -/
def leave (l : Loopback) (side : Side) : Loopback :=
  l.setEnd side { l.endAt side with present := false, inbox := [] }

/-- Why an end cannot use the link any more. -/
def peerGone : Error :=
  .transportClosed "loopback peer is gone"

/-- The link with the bytes of a segment on their way from a side. -/
def post (l : Loopback) (side : Side) (s : Segment) : Loopback :=
  let far := l.endAt side.other
  l.setEnd side.other { far with inbox := far.inbox ++ [((l.endAt side).node, s.wire)] }

/-- Sends a segment from a side, if the other one is still there. -/
def send (l : Loopback) (side : Side) (s : Segment) : Except Error Loopback :=
  if (l.endAt side.other).present then .ok (l.post side s) else .error peerGone

/-- What a side gets that has an empty inbox. -/
def idle {α : Type} (l : Loopback) (side : Side) : Reception α :=
  if (l.endAt side.other).present then .nothing else .closed peerGone

/-- Takes the next message on a side. -/
def receive (l : Loopback) (side : Side) : Reception Delivery × Loopback :=
  let e := l.endAt side
  match e.inbox with
  | [] => (l.idle side, l)
  | (source, bs) :: inbox =>
    let (d, impairment) := deliver e.impairment source bs
    (.got d, l.setEnd side { e with inbox, impairment })

/-- The first segment among some messages, with the messages after it and the impairment
afterwards. -/
def firstSegment (impairment : Option Impairment) :
    List (NodeId × Bytes) → Option (NodeId × Segment) × List (NodeId × Bytes) × Option Impairment
  | [] => (none, [], impairment)
  | (source, bs) :: rest =>
    match deliver impairment source bs with
    | (.segment source s, impairment) => (some (source, s), rest, impairment)
    | (.dropped, impairment) => firstSegment impairment rest

/-- Takes the next segment on a side and drops the messages before it that are none. -/
def poll (l : Loopback) (side : Side) : Reception (NodeId × Segment) × Loopback :=
  let e := l.endAt side
  let (first, inbox, impairment) := firstSegment e.impairment e.inbox
  let l := l.setEnd side { e with inbox, impairment }
  match first with
  | some x => (.got x, l)
  | none => (l.idle side, l)

end Loopback

end OverlayStack.Transport
