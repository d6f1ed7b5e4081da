import Mathlib.Data.List.Infix
import Mathlib.Tactic.Common
import OverlayStack.Transport.Client

/-!
# The pieces of a stream

A stream is cut into pieces, none of which is empty, and each piece travels in a segment whose
number is the position of its first byte.  As long as the numbers do not wrap around, they tell the
pieces apart, and two fronts of the stream are as long as each other only if they are the same.

## Main definitions

* `positionAfter` — the position in the stream after some pieces.

## Main results

* `segmentsOf_append`, `mem_segmentsOf_iff`, `exists_of_segmentsOf_eq_append` — the segments of some
  pieces.
* `eq_of_positionAfter_eq`, `isPrefix_of_positionAfter_lt` — fronts of a stream and positions.
-/

namespace OverlayStack.Transport

open ClientConnection (segmentsOf)

/-- The position in a stream after some pieces, the first of which is at a given position. -/
def positionAfter (seq : UInt32) (pieces : List Bytes) : UInt32 :=
  seq + UInt32.ofNat pieces.flatten.length

@[simp] theorem positionAfter_nil (seq : UInt32) : positionAfter seq [] = seq := by
  simp [positionAfter]

theorem positionAfter_append (seq : UInt32) (front back : List Bytes) :
    positionAfter seq (front ++ back) = positionAfter (positionAfter seq front) back := by
  unfold positionAfter
  rw [List.flatten_append, List.length_append, UInt32.ofNat_add, UInt32.add_assoc]

theorem positionAfter_singleton (seq : UInt32) (piece : Bytes) :
    positionAfter seq [piece] = seq + UInt32.ofNat piece.length := by
  rw [positionAfter, List.flatten_singleton]

theorem positionAfter_cons (seq : UInt32) (piece : Bytes) (rest : List Bytes) :
    positionAfter seq (piece :: rest) =
      positionAfter (seq + UInt32.ofNat piece.length) rest := by
  rw [← List.singleton_append, positionAfter_append, positionAfter_singleton]

theorem toNat_positionAfter {seq : UInt32} {pieces : List Bytes}
    (h : seq.toNat + pieces.flatten.length < 4294967296) :
    (positionAfter seq pieces).toNat = seq.toNat + pieces.flatten.length := by
  rw [positionAfter, UInt32.toNat_add, UInt32.toNat_ofNat']
  omega

/-! ### Segments -/

section Segments

variable (a b : UInt32)

theorem snd_segmentsOf (pieces : List Bytes) :
    ∀ seq, (segmentsOf a b seq pieces).2 = positionAfter seq pieces := by
  induction pieces with
  | nil => simp [segmentsOf]
  | cons piece pieces ih =>
    intro seq
    rw [segmentsOf, ih, positionAfter_cons]

@[simp] theorem length_segmentsOf (pieces : List Bytes) :
    ∀ seq, (segmentsOf a b seq pieces).1.length = pieces.length := by
  induction pieces with
  | nil => simp [segmentsOf]
  | cons piece pieces ih =>
    intro seq
    rw [segmentsOf, List.length_cons, List.length_cons, ih]

/-- The segments of some pieces carry them. -/
theorem map_payload_segmentsOf (pieces : List Bytes) :
    ∀ seq, (segmentsOf a b seq pieces).1.map (·.payload) = pieces := by
  induction pieces with
  | nil => simp [segmentsOf]
  | cons piece pieces ih =>
    intro seq
    rw [segmentsOf, List.map_cons, ih]
    rfl

theorem segmentsOf_append (front back : List Bytes) :
    ∀ seq, (segmentsOf a b seq (front ++ back)).1 =
      (segmentsOf a b seq front).1 ++ (segmentsOf a b (positionAfter seq front) back).1 := by
  induction front with
  | nil => simp [segmentsOf]
  | cons piece front ih =>
    intro seq
    rw [List.cons_append, segmentsOf, segmentsOf, positionAfter_cons]
    exact congrArg (_ :: ·) (ih _)

/-- A segment of a stream carries one of the pieces, and its number is the position of the piece. -/
theorem mem_segmentsOf_iff {pieces : List Bytes} {g : Segment} :
    ∀ {seq}, g ∈ (segmentsOf a b seq pieces).1 ↔ ∃ front piece back,
      pieces = front ++ piece :: back ∧ g = Segment.dataOf a b (positionAfter seq front) piece := by
  induction pieces with
  | nil => simp [segmentsOf]
  | cons first rest ih =>
    intro seq
    rw [segmentsOf]
    refine ⟨fun h => ?_, ?_⟩
    · rcases List.mem_cons.1 h with rfl | h
      · exact ⟨[], first, rest, rfl, by rw [positionAfter_nil]⟩
      · obtain ⟨front, piece, back, rfl, rfl⟩ := ih.1 h
        exact ⟨first :: front, piece, back, rfl, by rw [positionAfter_cons]⟩
    · rintro ⟨front, piece, back, hsplit, rfl⟩
      cases front with
      | nil =>
        obtain ⟨rfl, rfl⟩ := List.cons.inj hsplit
        rw [positionAfter_nil]
        exact List.mem_cons_self
      | cons _ front =>
        obtain ⟨rfl, rfl⟩ := List.cons.inj hsplit
        refine List.mem_cons_of_mem _ (ih.2 ⟨front, piece, back, rfl, ?_⟩)
        rw [positionAfter_cons]

/-- A split of the segments is a split of the pieces. -/
theorem exists_of_segmentsOf_eq_append {first second : List Segment} :
    ∀ {seq pieces}, (segmentsOf a b seq pieces).1 = first ++ second → ∃ front back,
      pieces = front ++ back ∧ first = (segmentsOf a b seq front).1 ∧
        second = (segmentsOf a b (positionAfter seq front) back).1 := by
  induction first with
  | nil =>
    intro seq pieces h
    exact ⟨[], pieces, rfl, rfl, by rw [positionAfter_nil]; exact h.symm⟩
  | cons g first ih =>
    intro seq pieces h
    cases pieces with
    | nil => cases h
    | cons piece pieces =>
      rw [segmentsOf, List.cons_append] at h
      obtain ⟨hg, h⟩ := List.cons.inj h
      obtain ⟨front, back, rfl, rfl, rfl⟩ := ih h
      refine ⟨piece :: front, back, rfl, ?_, ?_⟩
      · rw [segmentsOf, hg]
      · rw [positionAfter_cons]

/-- What is queued waits behind what waits already. -/
theorem ClientConnection.segments_enqueue (x : ClientConnection) (port : UInt32) (n : Nat)
    (data : Bytes) : (x.enqueue port n data).buffer.segments = x.buffer.segments ++
      (segmentsOf port x.serverPort x.nextSeq (Bytes.chunks n data)).1 :=
  SendBuffer.segments_pushAll _ _

end Segments

/-! ### Fronts -/

/-- Cutting gives pieces that are neither empty nor too long. -/
theorem mem_chunks {n : Nat} (hn : 0 < n) (bs : Bytes) :
    ∀ p ∈ Bytes.chunks n bs, p ≠ [] ∧ p.length ≤ n := by
  induction bs using Bytes.chunks.induct n with
  | case1 => simp
  | case2 b rest ih =>
    intro p hp
    rw [Bytes.chunks_cons] at hp
    rcases List.mem_cons.1 hp with rfl | hp
    · refine ⟨List.cons_ne_nil _ _, ?_⟩
      rw [List.length_cons, List.length_take]
      omega
    · exact ih p hp

variable {seq : UInt32} {pieces front taken : List Bytes}

theorem length_flatten_le_of_isPrefix (h : front <+: pieces) :
    front.flatten.length ≤ pieces.flatten.length := by
  obtain ⟨back, rfl⟩ := h
  rw [List.flatten_append, List.length_append]
  omega

/-- A front that ends before another one is followed by its next piece in it. -/
theorem isPrefix_of_positionAfter_lt {piece : Bytes} {back : List Bytes}
    (hsplit : pieces = front ++ piece :: back) (htaken : taken <+: pieces)
    (hroom : seq.toNat + pieces.flatten.length < 4294967296)
    (hlt : positionAfter seq front < positionAfter seq taken) : front ++ [piece] <+: taken := by
  have hnext : front ++ [piece] <+: pieces := ⟨back, by simp [hsplit]⟩
  have hfront : front <+: pieces := ⟨piece :: back, hsplit.symm⟩
  have hlen := length_flatten_le_of_isPrefix hfront
  have hlen' := length_flatten_le_of_isPrefix htaken
  rw [UInt32.lt_iff_toNat_lt, toNat_positionAfter (by omega), toNat_positionAfter (by omega)] at hlt
  rcases List.prefix_or_prefix_of_prefix hnext htaken with h | h
  · exact h
  · rcases List.prefix_concat_iff.1 h with rfl | h
    · exact List.prefix_rfl
    -- then the other one ends no later than the front
    · have := length_flatten_le_of_isPrefix h
      omega

/-- Two fronts that end at the same position are the same. -/
theorem eq_of_positionAfter_eq (hne : ∀ p ∈ pieces, p ≠ []) (hfront : front <+: pieces)
    (htaken : taken <+: pieces) (hroom : seq.toNat + pieces.flatten.length < 4294967296)
    (heq : positionAfter seq front = positionAfter seq taken) : front = taken := by
  have hlen := length_flatten_le_of_isPrefix hfront
  have hlen' := length_flatten_le_of_isPrefix htaken
  have hflat : front.flatten.length = taken.flatten.length := by
    have := congrArg UInt32.toNat heq
    rw [toNat_positionAfter (by omega), toNat_positionAfter (by omega)] at this
    omega
  -- the longer one goes on with pieces that have no bytes
  have hsame : ∀ {short long : List Bytes}, short <+: long → long <+: pieces →
      short.flatten.length = long.flatten.length → short = long := by
    rintro short _ ⟨more, rfl⟩ hlong hflat
    cases more with
    | nil => rw [List.append_nil]
    | cons p more =>
      have hp := hne p (hlong.subset (List.mem_append_right _ List.mem_cons_self))
      have := List.length_pos_iff.2 hp
      rw [List.flatten_append, List.flatten_cons, List.length_append, List.length_append] at hflat
      omega
  rcases List.prefix_or_prefix_of_prefix hfront htaken with h | h
  · exact hsame h htaken hflat
  · exact (hsame h hfront hflat.symm).symm

end OverlayStack.Transport
