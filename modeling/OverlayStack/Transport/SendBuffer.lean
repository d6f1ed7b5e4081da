import OverlayStack.Wire.Segment

/-!
# Send buffers

A send buffer holds the segments of a stream that the peer has not acknowledged.  The ones at the
front are in flight; the others wait for room in the window.  A lost segment makes everything in
flight be sent again.

Segments leave through the link below, which may refuse one: `handOver` hands segments over until
the first refusal.  `segments_transmit`, `segments_retransmit` and `segments_acknowledge` say what
the operations do to the queue as a whole.

## Main definitions

* `Transport.handOver` — sends segments one after another.
* `Transport.SendBuffer` — the queue.
* `SendBuffer.push`, `SendBuffer.transmit`, `SendBuffer.acknowledge`, `SendBuffer.retransmit` — its
  operations.
-/

namespace OverlayStack.Transport

/-- What the link below says to the `n`-th segment of an operation: nothing if it takes the segment,
or why it does not. -/
abbrev Refusal (ε : Type) := Nat → Segment → Option ε

/-- The segments that the link below takes before it refuses one, and the reason if it does.  The
first segment is the `n`-th of the operation. -/
def handOver {ε : Type} (refuse : Refusal ε) (n : Nat) :
    List Segment → List Segment × Option ε
  | [] => ([], none)
  | s :: rest =>
    match refuse n s with
    | some e => ([], some e)
    | none =>
      let (taken, e) := handOver refuse (n + 1) rest
      (s :: taken, e)

/-- What is handed over is the front of what was to be sent. -/
theorem handOver_isPrefix {ε : Type} (refuse : Refusal ε) (n : Nat) (segments : List Segment) :
    (handOver refuse n segments).1 <+: segments := by
  induction segments generalizing n with
  | nil => exact ⟨_, rfl⟩
  | cons s rest ih =>
    rw [handOver]
    split
    · exact ⟨_, rfl⟩
    · exact List.cons_prefix_cons.2 ⟨rfl, ih (n + 1)⟩

/-- Without a refusal everything is handed over. -/
theorem handOver_eq_of_none {ε : Type} {refuse : Refusal ε} {n : Nat} {segments : List Segment}
    (h : (handOver refuse n segments).2 = none) : (handOver refuse n segments).1 = segments := by
  induction segments generalizing n with
  | nil => rfl
  | cons s rest ih =>
    rw [handOver] at h ⊢
    split at h
    · simp at h
    · next hs => simp [ih h]

/-- A segment that was sent, with the time of its last transmission. -/
structure InFlight where
  segment : Segment
  /-- When it was last sent. -/
  sentAt : Nat

/-- The segments of a stream that are not yet acknowledged. -/
structure SendBuffer where
  /-- The segments that were sent, oldest first. -/
  inFlight : List InFlight := []
  /-- The segments that wait for room in the window, oldest first. -/
  waiting : List Segment := []

namespace SendBuffer

/-- All segments, oldest first. -/
def segments (b : SendBuffer) : List Segment :=
  b.inFlight.map (·.segment) ++ b.waiting

/-- The number of segments. -/
def length (b : SendBuffer) : Nat :=
  b.inFlight.length + b.waiting.length

/-- Whether there are no segments. -/
def isEmpty (b : SendBuffer) : Bool :=
  b.inFlight.isEmpty && b.waiting.isEmpty

/-- The buffer with one more segment at the end. -/
def push (b : SendBuffer) (s : Segment) : SendBuffer :=
  { b with waiting := b.waiting ++ [s] }

/-- The buffer with more segments at the end. -/
def pushAll (b : SendBuffer) (segments : List Segment) : SendBuffer :=
  { b with waiting := b.waiting ++ segments }

/-- Sends waiting segments while fewer than `window` are in flight.  The result has the buffer, the
segments that were sent, and the reason if one was refused. -/
def transmit {ε : Type} (b : SendBuffer) (window now : Nat) (refuse : Refusal ε) :
    SendBuffer × List Segment × Option ε :=
  let (taken, e) := handOver refuse 0 (b.waiting.take (window - b.inFlight.length))
  ({ inFlight := b.inFlight ++ taken.map fun s => ⟨s, now⟩
     waiting := b.waiting.drop taken.length }, taken, e)

/-- Removes the segments in flight from the oldest one on whose numbers are below `ack`, and counts
them. -/
def acknowledge (b : SendBuffer) (ack : UInt32) : SendBuffer × Nat :=
  let kept := b.inFlight.dropWhile fun f => f.segment.seq < ack
  ({ b with inFlight := kept }, b.inFlight.length - kept.length)

/-- When the oldest segment in flight was last sent. -/
def oldestSentAt? (b : SendBuffer) : Option Nat :=
  b.inFlight.head?.map (·.sentAt)

/-- Whether the oldest segment in flight has been there for a given time. -/
def isTimedOut (b : SendBuffer) (timeout now : Nat) : Bool :=
  match b.oldestSentAt? with
  | none => false
  | some sentAt => timeout ≤ now - sentAt

/-- Sends everything in flight again.  The result has the buffer, the segments that were sent, and
the reason if one was refused. -/
def retransmit {ε : Type} (b : SendBuffer) (now : Nat) (refuse : Refusal ε) :
    SendBuffer × List Segment × Option ε :=
  let (taken, e) := handOver refuse 0 (b.inFlight.map (·.segment))
  ({ b with
      inFlight := taken.map (fun s => ⟨s, now⟩) ++ b.inFlight.drop taken.length }, taken, e)

@[simp] theorem length_segments (b : SendBuffer) : b.segments.length = b.length := by
  simp [segments, length]

@[simp] theorem segments_push (b : SendBuffer) (s : Segment) :
    (b.push s).segments = b.segments ++ [s] := by
  simp [segments, push]

@[simp] theorem segments_pushAll (b : SendBuffer) (more : List Segment) :
    (b.pushAll more).segments = b.segments ++ more := by
  simp [segments, pushAll]

/-- Sending changes nothing in the queue as a whole. -/
@[simp] theorem segments_transmit {ε : Type} (b : SendBuffer) (window now : Nat)
    (refuse : Refusal ε) : (b.transmit window now refuse).1.segments = b.segments := by
  have hpre : (handOver refuse 0 (b.waiting.take (window - b.inFlight.length))).1 <+: b.waiting :=
    (handOver_isPrefix refuse 0 _).trans ⟨_, List.take_append_drop _ _⟩
  simp only [transmit, segments, List.map_append, List.map_map, Function.comp_def, List.map_id',
    List.append_assoc]
  congr 1
  obtain ⟨rest, hrest⟩ := hpre
  generalize handOver refuse 0 (b.waiting.take (window - b.inFlight.length)) = taken at hrest
  rw [← hrest]
  simp

/-- Sending again changes nothing in the queue as a whole. -/
@[simp] theorem segments_retransmit {ε : Type} (b : SendBuffer) (now : Nat) (refuse : Refusal ε) :
    (b.retransmit now refuse).1.segments = b.segments := by
  have hpre := handOver_isPrefix refuse 0 (b.inFlight.map (·.segment))
  simp only [retransmit, segments, List.map_append, List.map_map, Function.comp_def, List.map_id',
    List.map_drop]
  congr 1
  obtain ⟨rest, hrest⟩ := hpre
  generalize handOver refuse 0 (b.inFlight.map (·.segment)) = taken at hrest
  rw [← hrest]
  simp

/-- An acknowledgment removes segments from the front. -/
theorem segments_acknowledge (b : SendBuffer) (ack : UInt32) :
    b.segments = (b.segments.take (b.acknowledge ack).2) ++ (b.acknowledge ack).1.segments := by
  have hdrop := List.takeWhile_append_dropWhile (p := fun f : InFlight => f.segment.seq < ack)
    (l := b.inFlight)
  have hlen : b.inFlight.length - (b.inFlight.dropWhile fun f => f.segment.seq < ack).length =
      (b.inFlight.takeWhile fun f => f.segment.seq < ack).length := by
    have := congrArg List.length hdrop
    rw [List.length_append] at this
    omega
  simp only [acknowledge, segments, hlen]
  conv => lhs; rw [← hdrop]
  conv => rhs; arg 1; arg 2; rw [← hdrop]
  simp only [List.map_append, List.append_assoc]
  congr 1
  rw [List.take_append_of_le_length (by simp), List.take_of_length_le (by simp)]

end SendBuffer

end OverlayStack.Transport
