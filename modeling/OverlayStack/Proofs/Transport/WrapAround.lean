import OverlayStack.Proofs.Transport.Pieces
import OverlayStack.Transport.Server

/-!
# Acknowledgments where positions wrap around

Positions in a stream are taken modulo `2 ^ 32` at either end, and a send buffer compares them as
they are.  As long as the acknowledged front does not reach beyond the last position, an
acknowledgment removes just the segments that the server has taken.  Beyond it, the same
acknowledgment removes nothing, and one that is older than the buffer removes everything if the
buffer begins less far behind the last position than the acknowledgment is old.

## Main definitions

* `SendBuffer.Carries` — what is in flight is a stretch of a stream.
* `SendBuffer.queued` — the buffer to which some pieces were pushed.
* `ServerConnection.absorbAll` — a server after some segments have arrived.

## Main results

* `Carries.acknowledge_front`, `Carries.acknowledge_older` — what an acknowledgment removes.
* `SendBuffer.acknowledge_queued` — the same for pieces that were pushed and sent.
-/

namespace OverlayStack.Transport

open ClientConnection (segmentsOf)

theorem toNat_positionAfter_of_wrap {seq : UInt32} {pieces : List Bytes}
    (hwrap : 4294967296 ≤ seq.toNat + pieces.flatten.length)
    (hshort : pieces.flatten.length < 4294967296) :
    (positionAfter seq pieces).toNat = seq.toNat + pieces.flatten.length - 4294967296 := by
  have hseq := seq.toNat_lt
  rw [positionAfter, UInt32.toNat_add, UInt32.toNat_ofNat']
  omega

/-- The number that lies some steps before another one. -/
theorem toNat_sub_ofNat (seq : UInt32) {age : Nat} (hage : age < 4294967296) :
    (seq - UInt32.ofNat age).toNat =
      if age ≤ seq.toNat then seq.toNat - age else seq.toNat + 4294967296 - age := by
  have hseq := seq.toNat_lt
  rw [UInt32.toNat_sub, UInt32.toNat_ofNat']
  split <;> omega

namespace ServerConnection

/-- The connection after some segments have arrived, one after another. -/
def absorbAll (y : ServerConnection) (capacity : Nat) (segments : List Segment) :
    ServerConnection :=
  segments.foldl (fun y g => y.absorb capacity g) y

/-- A stretch of the stream for which there is room is taken as a whole. -/
theorem absorbAll_segmentsOf (a b : UInt32) {capacity : Nat} {pieces : List Bytes} :
    ∀ {y : ServerConnection}, y.buffer.length + pieces.flatten.length ≤ capacity →
      (y.absorbAll capacity (segmentsOf a b y.expected pieces).1).buffer =
          y.buffer ++ pieces.flatten ∧
        (y.absorbAll capacity (segmentsOf a b y.expected pieces).1).expected =
          positionAfter y.expected pieces := by
  induction pieces with
  | nil => simp [segmentsOf, absorbAll]
  | cons piece rest ih =>
    intro y hroom
    rw [List.flatten_cons, List.length_append] at hroom
    have htaken : y.absorb capacity (Segment.dataOf a b y.expected piece) =
        { y with
          buffer := y.buffer ++ piece
          expected := y.expected + UInt32.ofNat piece.length } := by
      refine if_pos ?_
      rw [accepts, Bool.and_eq_true, beq_iff_eq, decide_eq_true_eq]
      exact ⟨rfl, show y.buffer.length + piece.length ≤ capacity by omega⟩
    obtain ⟨hbuf, hexp⟩ := @ih { y with
        buffer := y.buffer ++ piece
        expected := y.expected + UInt32.ofNat piece.length }
      (by rw [List.length_append]; omega)
    rw [segmentsOf, absorbAll, List.foldl_cons, htaken, List.flatten_cons, ← List.append_assoc,
      positionAfter_cons]
    exact ⟨hbuf, hexp⟩

end ServerConnection

namespace SendBuffer

/-- An acknowledgment removes the segments below it up to the first one that is not. -/
theorem acknowledge_of_split {b : SendBuffer} {ack : UInt32} {first second : List InFlight}
    (hsplit : b.inFlight = first ++ second) (hfirst : ∀ f ∈ first, f.segment.seq < ack)
    (hsecond : ∀ f ∈ second.head?, ¬ f.segment.seq < ack) :
    b.acknowledge ack = ({ b with inFlight := second }, first.length) := by
  have hkept : b.inFlight.dropWhile (fun f => f.segment.seq < ack) = second := by
    rw [hsplit, List.dropWhile_append_of_pos fun f hf => decide_eq_true (hfirst f hf)]
    cases second with
    | nil => rfl
    | cons f second =>
      have hf := hsecond f rfl
      rw [List.dropWhile_cons_of_neg (by rwa [decide_eq_true_eq])]
  rw [acknowledge, hkept, hsplit, List.length_append, Nat.add_sub_cancel]

/-- What is in flight is a stretch of a stream, from a given position on. -/
def Carries (b : SendBuffer) (source dest seq : UInt32) (pieces : List Bytes) : Prop :=
  b.inFlight.map (·.segment) = (segmentsOf source dest seq pieces).1

namespace Carries

variable {b : SendBuffer} {source dest seq : UInt32} {pieces front back : List Bytes}

theorem length_eq (h : b.Carries source dest seq pieces) : b.inFlight.length = pieces.length := by
  have hlen := congrArg List.length h
  rwa [List.length_map, length_segmentsOf] at hlen

/-- What is in flight carries the pieces, at their positions. -/
theorem exists_of_mem (h : b.Carries source dest seq pieces) {f : InFlight}
    (hf : f ∈ b.inFlight) :
    ∃ front piece back, pieces = front ++ piece :: back ∧
      f.segment = Segment.dataOf source dest (positionAfter seq front) piece := by
  refine (mem_segmentsOf_iff source dest).1 ?_
  rw [← show b.inFlight.map (·.segment) = _ from h]
  exact List.mem_map_of_mem hf

/-- A front of the pieces is carried by the front of what is in flight. -/
theorem take (h : b.Carries source dest seq (front ++ back)) :
    Carries { b with inFlight := b.inFlight.take front.length } source dest seq front := by
  show (b.inFlight.take front.length).map _ = _
  rw [List.map_take, show b.inFlight.map (·.segment) = _ from h, segmentsOf_append]
  exact List.take_left' (length_segmentsOf source dest front seq)

/-- The rest of the pieces is carried by the rest of what is in flight. -/
theorem drop (h : b.Carries source dest seq (front ++ back)) :
    Carries { b with inFlight := b.inFlight.drop front.length } source dest
      (positionAfter seq front) back := by
  show (b.inFlight.drop front.length).map _ = _
  rw [List.map_drop, show b.inFlight.map (·.segment) = _ from h, segmentsOf_append]
  exact List.drop_left' (length_segmentsOf source dest front seq)

/-- The oldest segment in flight is the first one of the stretch. -/
theorem seq_of_head? (h : b.Carries source dest seq pieces) {f : InFlight}
    (hf : f ∈ b.inFlight.head?) : f.segment.seq = seq := by
  have hhead := congrArg List.head? h
  rw [List.head?_map, hf] at hhead
  cases pieces with
  | nil => cases hhead
  | cons piece rest => exact congrArg Segment.seq (Option.some.inj hhead)

/-- An acknowledgment that is not above the oldest segment in flight removes nothing. -/
theorem acknowledge_of_le (h : b.Carries source dest seq pieces) {ack : UInt32} (hle : ack ≤ seq) :
    b.acknowledge ack = (b, 0) := by
  refine acknowledge_of_split (List.nil_append _).symm (fun f hf => absurd hf List.not_mem_nil) ?_
  intro f hf
  rw [h.seq_of_head? hf]
  exact UInt32.not_lt.2 hle

/-- **A front that does not reach beyond the last position** is removed when it is acknowledged; one
that does stays. -/
theorem acknowledge_front (h : b.Carries source dest seq (front ++ back))
    (hne : ∀ p ∈ front, p ≠ []) (hshort : front.flatten.length < 2147483648) :
    b.acknowledge (positionAfter seq front) =
      if seq.toNat + front.flatten.length < 4294967296 then
        ({ b with inFlight := b.inFlight.drop front.length }, front.length)
      else (b, 0) := by
  split
  · next hroom =>
    have hlen : (b.inFlight.take front.length).length = front.length := h.take.length_eq
    have hsplit := (List.take_append_drop front.length b.inFlight).symm
    refine (acknowledge_of_split hsplit (fun f hf => ?_) (fun f hf => ?_)).trans (by rw [hlen])
    · obtain ⟨before, piece, after, rfl, hseg⟩ := h.take.exists_of_mem hf
      have hpos := List.length_pos_iff.2 (hne piece (List.mem_append_right _ List.mem_cons_self))
      have hflat : (before ++ piece :: after).flatten.length =
          before.flatten.length + (piece.length + after.flatten.length) := by
        rw [List.flatten_append, List.flatten_cons, List.length_append, List.length_append]
      rw [hseg, UInt32.lt_iff_toNat_lt]
      show (positionAfter seq before).toNat < _
      rw [toNat_positionAfter hroom, toNat_positionAfter (by omega)]
      omega
    · rw [h.drop.seq_of_head? hf]
      exact UInt32.lt_irrefl _
  · next hwrap =>
    refine h.acknowledge_of_le ?_
    rw [UInt32.le_iff_toNat_le, toNat_positionAfter_of_wrap (by omega) (by omega)]
    omega

/-- **An acknowledgment that is older than the stretch** removes nothing if it lies before it, and
everything if it lies beyond the wrap. -/
theorem acknowledge_older (h : b.Carries source dest seq pieces)
    (hshort : pieces.flatten.length < 2147483648) {age : Nat} (hage : age < 2147483648) :
    b.acknowledge (seq - UInt32.ofNat age) =
      if age ≤ seq.toNat then (b, 0)
      else ({ b with inFlight := [] }, b.inFlight.length) := by
  have hack := toNat_sub_ofNat seq (show age < 4294967296 by omega)
  split
  · next hle =>
    rw [if_pos hle] at hack
    refine h.acknowledge_of_le ?_
    rw [UInt32.le_iff_toNat_le, hack]
    omega
  · next hlt =>
    rw [if_neg hlt] at hack
    refine acknowledge_of_split (List.append_nil _).symm (fun f hf => ?_) nofun
    obtain ⟨before, piece, after, rfl, hseg⟩ := h.exists_of_mem hf
    rw [List.flatten_append, List.length_append] at hshort
    rw [hseg, UInt32.lt_iff_toNat_lt, hack]
    show (positionAfter seq before).toNat < _
    rw [toNat_positionAfter (by omega)]
    omega

end Carries

/-- The buffer to which the segments of some pieces were pushed, from a given position on. -/
def queued (source dest seq : UInt32) (pieces : List Bytes) : SendBuffer :=
  (segmentsOf source dest seq pieces).1.foldl push {}

theorem segments_foldl_push (b : SendBuffer) (more : List Segment) :
    (more.foldl push b).segments = b.segments ++ more := by
  induction more generalizing b with
  | nil => simp
  | cons s more ih =>
    rw [List.foldl_cons, ih, segments_push, List.append_assoc]
    rfl

/-- What was sent of some pieces is a front of them. -/
theorem carries_of_segments_eq {b : SendBuffer} {source dest seq : UInt32} {pieces : List Bytes}
    (h : b.segments = (segmentsOf source dest seq pieces).1) :
    b.Carries source dest seq (pieces.take b.inFlight.length) := by
  have hlen := congrArg List.length h
  rw [length_segments, length_segmentsOf, SendBuffer.length] at hlen
  rw [← List.take_append_drop b.inFlight.length pieces, segmentsOf_append, segments] at h
  refine (List.append_inj h ?_).1
  rw [List.length_map, length_segmentsOf, List.length_take]
  omega

variable {ε : Type} (source dest seq : UInt32) {pieces : List Bytes} (window now : Nat)
  (refuse : Refusal ε)

/-- **Acknowledgments of pieces that were pushed and sent.**  What is in flight is a front of the
pieces.  If the server has taken just the first `k` segments of it, its answer removes them, unless
they reach beyond the last position; then it removes nothing.  An older number removes nothing,
unless it lies beyond the wrap; then it removes everything in flight. -/
theorem acknowledge_queued (hne : ∀ p ∈ pieces, p ≠ []) {b : SendBuffer}
    (hb : b = ((queued source dest seq pieces).transmit window now refuse).1)
    (hshort : (pieces.take b.inFlight.length).flatten.length < 2147483648) :
    b.Carries source dest seq (pieces.take b.inFlight.length) ∧
    (∀ k ≤ b.inFlight.length,
      (∀ (y : ServerConnection) capacity, y.expected = seq →
        y.buffer.length + (pieces.take k).flatten.length ≤ capacity →
        (y.absorbAll capacity ((b.inFlight.take k).map (·.segment))).expected =
          positionAfter seq (pieces.take k)) ∧
      b.acknowledge (positionAfter seq (pieces.take k)) =
        if seq.toNat + (pieces.take k).flatten.length < 4294967296 then
          ({ b with inFlight := b.inFlight.drop k }, k)
        else (b, 0)) ∧
    ∀ age, 0 < age → age < 2147483648 →
      b.acknowledge (seq - UInt32.ofNat age) =
        if age ≤ seq.toNat then (b, 0)
        else ({ b with inFlight := [] }, b.inFlight.length) := by
  have hsegments : b.segments = (segmentsOf source dest seq pieces).1 := by
    rw [hb, segments_transmit, queued, segments_foldl_push]
    rfl
  have hcarries := carries_of_segments_eq hsegments
  refine ⟨hcarries, fun k hk => ?_, fun age _ hage => hcarries.acknowledge_older hshort hage⟩
  have hsplit : pieces.take b.inFlight.length =
      pieces.take k ++ (pieces.drop k).take (b.inFlight.length - k) := by
    rw [← List.take_add, Nat.add_sub_cancel' hk]
  rw [hsplit] at hcarries hshort
  have hlen : (pieces.take k).length = k := by
    have := hcarries.length_eq
    rw [List.length_append, List.length_take, List.length_take, List.length_drop] at this
    rw [List.length_take]
    omega
  rw [List.flatten_append, List.length_append] at hshort
  constructor
  · rintro y capacity rfl hroom
    have htaken : (b.inFlight.take k).map (·.segment) =
        (segmentsOf source dest y.expected (pieces.take k)).1 := by
      have := hcarries.take
      rwa [hlen] at this
    rw [htaken]
    exact (ServerConnection.absorbAll_segmentsOf source dest hroom).2
  · have := hcarries.acknowledge_front (fun p hp => hne p (List.mem_of_mem_take hp)) (by omega)
    rwa [hlen] at this

/-! ### Two segments in flight -/

/-- Two segments that were sent, from a given position on. -/
def sampleSent (seq : UInt32) : SendBuffer :=
  ((queued 7 9 seq [[1, 2], [3]]).transmit 2 0 fun _ _ => (none : Option Error)).1

/-- Far from the last position, the first segment is removed and an older number is ignored.  One
position before the wrap, the first segment stays; just behind it, an older number removes both. -/
theorem acknowledge_queued_sample :
    (sampleSent 5).acknowledge 7 =
        ({ sampleSent 5 with inFlight := (sampleSent 5).inFlight.drop 1 }, 1) ∧
      (sampleSent 5).acknowledge 2 = (sampleSent 5, 0) ∧
      (sampleSent 4294967295).acknowledge 1 = (sampleSent 4294967295, 0) ∧
      (sampleSent 1).acknowledge 4294967295 = ({ sampleSent 1 with inFlight := [] }, 2) := by
  have hne : ∀ p ∈ ([[1, 2], [3]] : List Bytes), p ≠ [] := by decide
  obtain ⟨-, hfar, hold⟩ := acknowledge_queued 7 9 5 2 0 _ hne (rfl : sampleSent 5 = _) (by decide)
  obtain ⟨-, hwrap, -⟩ :=
    acknowledge_queued 7 9 4294967295 2 0 _ hne (rfl : sampleSent 4294967295 = _) (by decide)
  obtain ⟨-, -, hlost⟩ := acknowledge_queued 7 9 1 2 0 _ hne (rfl : sampleSent 1 = _) (by decide)
  exact ⟨(hfar 1 (by decide)).2, hold 3 (by decide) (by decide), (hwrap 1 (by decide)).2,
    hlost 2 (by decide) (by decide)⟩

/-- The window is stuck: the server has taken the first of two segments and expects the byte at
position `1`, but its answer removes nothing.  Data is lost: an answer from before the first segment
removes both, of which the server has taken none. -/
theorem stuck_and_lost :
    positionAfter 4294967295 [[1, 2]] = 1 ∧
      (ServerConnection.absorbAll { expected := 4294967295 } 10
        [Segment.dataOf 7 9 4294967295 [1, 2]]).expected = 1 ∧
      (sampleSent 4294967295).segments.map (·.seq) = [4294967295, 1] ∧
      (sampleSent 4294967295).inFlight.length = 2 ∧
      ((sampleSent 4294967295).acknowledge 1).2 = 0 ∧
      (sampleSent 0).inFlight.length = 2 ∧
      ((sampleSent 0).acknowledge (0 - 1)).2 = 2 := by
  decide

end SendBuffer

end OverlayStack.Transport
