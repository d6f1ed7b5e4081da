import OverlayStack.Proofs.Wire.Segment

/-!
# The byte strings that are segments

A byte string is a segment exactly if it is as long as its header says, its kind has a meaning, and
its words add up to a positive multiple of 65535.  What is read is what was written.  The other way
round, a segment that was read is written as the bytes that it was read from, but for one case: the
ones' complement has two zeros, and a checksum that could be either is always written as zero.

## Main definitions

* `Bytes.wordAt` — the word at a place of a byte string.
* `Segment.front` — the header of a segment up to its checksum.
* `Segment.otherWords` — the sum of all words of a byte string but its checksum.

## Main results

* `Segment.read_eq_ok_iff`, `Segment.exists_read_iff` — what is read, and when.
* `Segment.wire_eq_of_read` — a segment that was read is written with its own checksum.
* `Segment.toNat_checksum_stamped` — what this checksum is.
* `Segment.reads_exactly` — the accepted byte strings and both round trips.
-/

namespace OverlayStack

/-! ### Words of a byte string -/

namespace Bytes

/-- The word at a place of a byte string, high byte first. -/
def wordAt (bs : Bytes) (i : Nat) : Nat :=
  (bs.getD i 0).toNat * 256 + (bs.getD (i + 1) 0).toNat

/-- A word is found where it was written. -/
theorem wordAt_append {front : Bytes} {i : Nat} (h : front.length = i) (w : UInt16)
    (back : Bytes) : (front ++ (ofWord16 w ++ back)).wordAt i = w.toNat := by
  subst h
  have := w.toNat_lt
  simp only [wordAt, ofWord16, List.getD_eq_getElem?_getD, List.cons_append,
    List.getElem?_append_right (Nat.le_refl _), List.getElem?_append_right (Nat.le_add_right _ 1),
    Nat.sub_self, Nat.add_sub_cancel_left, List.getElem?_cons_zero, List.getElem?_cons_succ,
    Option.getD_some, UInt8.toNat_ofNat']
  omega

theorem exists_splitWord16? {bs : Bytes} (h : 2 ≤ bs.length) :
    ∃ w rest, splitWord16? bs = some (w, rest) ∧ bs.length = rest.length + 2 := by
  match bs, h with
  | hi :: lo :: rest, _ => exact ⟨_, rest, rfl, rfl⟩

theorem exists_splitWord32? {bs : Bytes} (h : 4 ≤ bs.length) :
    ∃ w rest, splitWord32? bs = some (w, rest) ∧ bs.length = rest.length + 4 := by
  match bs, h with
  | a :: b :: c :: d :: rest, _ => exact ⟨_, rest, rfl, rfl⟩

end Bytes

/-- A kind has a meaning exactly if its code is at most five. -/
theorem SegmentKind.ofCode_ne_unknown_iff {code : UInt16} :
    ofCode code ≠ .unknown ↔ code.toNat ≤ 5 := by
  simp only [ofCode, ← UInt16.toNat_inj, UInt16.reduceToNat]
  split_ifs <;> simp <;> omega

namespace Segment

variable {bs : Bytes} {s : Segment} {code : UInt16}

/-! ### What is read -/

/-- Enough bytes can be split into the fields of a header and a payload. -/
theorem exists_split? (h : 24 ≤ bs.length) : ∃ s code, split? bs = some (s, code) := by
  obtain ⟨w₁, bs₁, h₁, hlen₁⟩ := Bytes.exists_splitWord32? (show 4 ≤ bs.length by omega)
  obtain ⟨w₂, bs₂, h₂, hlen₂⟩ := Bytes.exists_splitWord32? (show 4 ≤ bs₁.length by omega)
  obtain ⟨w₃, bs₃, h₃, hlen₃⟩ := Bytes.exists_splitWord32? (show 4 ≤ bs₂.length by omega)
  obtain ⟨w₄, bs₄, h₄, hlen₄⟩ := Bytes.exists_splitWord32? (show 4 ≤ bs₃.length by omega)
  obtain ⟨w₅, bs₅, h₅, hlen₅⟩ := Bytes.exists_splitWord16? (show 2 ≤ bs₄.length by omega)
  obtain ⟨w₆, bs₆, h₆, hlen₆⟩ := Bytes.exists_splitWord16? (show 2 ≤ bs₅.length by omega)
  obtain ⟨w₇, bs₇, h₇, hlen₇⟩ := Bytes.exists_splitWord16? (show 2 ≤ bs₆.length by omega)
  obtain ⟨w₈, bs₈, h₈, -⟩ := Bytes.exists_splitWord16? (show 2 ≤ bs₇.length by omega)
  simp [split?, h₁, h₂, h₃, h₄, h₅, h₆, h₇, h₈]

/-- **What is read** from a byte string. -/
theorem read_eq_ok_iff : read bs = .ok s ↔ ∃ code, split? bs = some (s, code) ∧
    s.payload.length = s.length.toNat ∧ OverlayStack.checksum bs = 0 ∧ s.kind ≠ .unknown := by
  unfold read validate
  cases hsplit : split? bs with
  | none => simp
  | some fields =>
    obtain ⟨s', code⟩ := fields
    -- the three checks, one after the other
    dsimp only
    split
    · grind
    · split_ifs <;> grind

/-- The header of a segment up to its checksum. -/
def front (s : Segment) : Bytes :=
  Bytes.ofWord32 s.sourcePort ++ Bytes.ofWord32 s.destPort ++ Bytes.ofWord32 s.seq ++
    Bytes.ofWord32 s.ack ++ Bytes.ofWord16 s.kind.code ++ Bytes.ofWord16 s.window ++
    Bytes.ofWord16 s.length

theorem length_front (s : Segment) : s.front.length = 22 := rfl

theorem header_eq (s : Segment) : s.header = s.front ++ Bytes.ofWord16 s.checksum := rfl

/-- The fields of a byte string are found at their places. -/
theorem wordAt_of_split? (h : split? bs = some (s, code)) :
    bs.length = 24 + s.payload.length ∧ bs.wordAt 16 = code.toNat ∧
      bs.wordAt 20 = s.length.toNat ∧ s.kind = SegmentKind.ofCode code := by
  obtain ⟨hkind, rfl⟩ := eq_of_split? h
  refine ⟨?_, ?_, ?_, hkind⟩
  · simp only [List.length_append, Bytes.length_ofWord32, Bytes.length_ofWord16]
  · have hplace : (Bytes.ofWord32 s.sourcePort ++ Bytes.ofWord32 s.destPort ++
      Bytes.ofWord32 s.seq ++ Bytes.ofWord32 s.ack).length = 16 := rfl
    simpa only [List.append_assoc] using Bytes.wordAt_append hplace code (Bytes.ofWord16 s.window ++
      Bytes.ofWord16 s.length ++ Bytes.ofWord16 s.checksum ++ s.payload)
  · have hplace : (Bytes.ofWord32 s.sourcePort ++ Bytes.ofWord32 s.destPort ++
      Bytes.ofWord32 s.seq ++ Bytes.ofWord32 s.ack ++ Bytes.ofWord16 code ++
      Bytes.ofWord16 s.window).length = 20 := rfl
    simpa only [List.append_assoc] using
      Bytes.wordAt_append hplace s.length (Bytes.ofWord16 s.checksum ++ s.payload)

/-- **When a segment is read** from a byte string. -/
theorem exists_read_iff : (∃ s, read bs = .ok s) ↔
    24 ≤ bs.length ∧ bs.length = 24 + bs.wordAt 20 ∧ bs.wordAt 16 ≤ 5 ∧
      0 < plainSum bs ∧ plainSum bs % 65535 = 0 := by
  constructor
  · rintro ⟨s, hread⟩
    obtain ⟨code, hsplit, hlength, hsum, hk⟩ := read_eq_ok_iff.1 hread
    obtain ⟨hbytes, hcode, hfield, hkind⟩ := wordAt_of_split? hsplit
    have := s.length.toNat_lt
    rw [hkind, SegmentKind.ofCode_ne_unknown_iff, ← hcode] at hk
    rw [checksum_eq_zero_iff (by omega)] at hsum
    exact ⟨by omega, by omega, hk, hsum⟩
  · rintro ⟨hlong, hbytes, hk, hsum⟩
    obtain ⟨s, code, hsplit⟩ := exists_split? hlong
    obtain ⟨hbytes', hcode, hfield, hkind⟩ := wordAt_of_split? hsplit
    have := s.length.toNat_lt
    rw [hcode, ← SegmentKind.ofCode_ne_unknown_iff, ← hkind] at hk
    rw [← checksum_eq_zero_iff (by omega)] at hsum
    exact ⟨s, read_eq_ok_iff.2 ⟨code, hsplit, by omega, hsum, hk⟩⟩

/-! ### Writing what was read -/

/-- The sum of all words of the bytes of a segment but the checksum. -/
def otherWords (bs : Bytes) : Nat :=
  plainSum (bs.take 22) + plainSum (bs.drop 24)

theorem take_front_append (s : Segment) (c : UInt16) (payload : Bytes) :
    (s.front ++ (Bytes.ofWord16 c ++ payload)).take 22 = s.front :=
  List.take_left' rfl

theorem drop_front_append (s : Segment) (c : UInt16) (payload : Bytes) :
    (s.front ++ (Bytes.ofWord16 c ++ payload)).drop 24 = payload := by
  rw [← List.append_assoc]
  exact List.drop_left' rfl

/-- The checksum is counted like any other word. -/
theorem plainSum_front_append (s : Segment) (c : UInt16) (payload : Bytes) :
    plainSum (s.front ++ (Bytes.ofWord16 c ++ payload)) =
      otherWords (s.front ++ (Bytes.ofWord16 c ++ payload)) + c.toNat := by
  have := c.toNat_lt
  rw [otherWords, take_front_append, drop_front_append, plainSum_append (by rw [length_front]),
    Bytes.ofWord16, List.cons_append, List.cons_append, List.nil_append, plainSum,
    UInt8.toNat_ofNat', UInt8.toNat_ofNat']
  omega

/-- A segment that was read is written with the same bytes but for its checksum. -/
theorem wire_eq_of_read (h : read bs = .ok s) :
    bs = s.front ++ (Bytes.ofWord16 s.checksum ++ s.payload) ∧
      s.wire = s.front ++ (Bytes.ofWord16 s.stamped.checksum ++ s.payload) := by
  obtain ⟨hbytes, hlength⟩ := eq_of_read h
  have hsame : s.stamped.length = s.length := by
    show UInt16.ofNat s.payload.length = s.length
    rw [hlength, UInt16.ofNat_toNat]
  constructor
  · rw [hbytes, header_eq, List.append_assoc]
  · rw [wire, header_eq, List.append_assoc]
    unfold front
    rw [hsame]
    rfl

/-- **The checksum that a segment is written with.**  It complements the other words, and it is
never the zero that has all bits set, unless there are no other words to complement. -/
theorem toNat_checksum_stamped (h : s.payload.length = s.length.toNat) :
    let others := otherWords (s.front ++ (Bytes.ofWord16 s.checksum ++ s.payload))
    (others + s.stamped.checksum.toNat) % 65535 = 0 ∧
      (s.stamped.checksum.toNat = 65535 ↔ others = 0) := by
  intro others
  have hsame : UInt16.ofNat s.payload.length = s.length := by
    rw [h, UInt16.ofNat_toNat]
  have := s.length.toNat_lt
  have hblank : s.measured.header ++ s.payload =
      s.front ++ (Bytes.ofWord16 0 ++ s.payload) := by
    rw [header_eq, List.append_assoc]
    unfold front measured
    dsimp only
    rw [hsame]
  have hothers : otherWords (s.front ++ (Bytes.ofWord16 0 ++ s.payload)) = others := by
    simp only [others, otherWords, take_front_append, drop_front_append]
  have hzero : (0 : UInt16).toNat = 0 := rfl
  have hsum : (wordSum (s.measured.header ++ s.payload)).toNat = others := by
    rw [toNat_wordSum, hblank, plainSum_front_append, hothers, hzero, Nat.add_zero]
    rw [List.length_append, length_header, headerLength]
    omega
  have hstamp : s.stamped.checksum.toNat =
      65535 - (foldCarry (foldCarry (wordSum (s.measured.header ++ s.payload)))).toNat :=
    toNat_checksum _
  obtain ⟨hmod, hnone⟩ := toNat_foldCarry_foldCarry (wordSum (s.measured.header ++ s.payload))
  have hlt := foldCarry_foldCarry_lt (wordSum (s.measured.header ++ s.payload))
  rw [hsum] at hmod hnone
  omega

/-- **The accepted byte strings and both round trips.**  A segment is read from a byte string
exactly if the string is as long as its header says, the code of its kind has a meaning, and its
words add up to a positive multiple of 65535.  The bytes of a segment of a known kind are read as
this segment, with the length and the checksum that were written.  A segment that was read is
written as the bytes that it was read from, but for the checksum; and the checksum is the same as
well, unless it was 65535 and the other words alone add up to a positive multiple of 65535, where it
is written as zero. -/
theorem reads_exactly :
    (∀ bs : Bytes, (∃ s, read bs = .ok s) ↔
      24 ≤ bs.length ∧ bs.length = 24 + bs.wordAt 20 ∧ bs.wordAt 16 ≤ 5 ∧
        0 < plainSum bs ∧ plainSum bs % 65535 = 0) ∧
    (∀ s : Segment, s.kind ≠ .unknown → s.payload.length ≤ 65535 →
      read s.wire = .ok { s with
        length := UInt16.ofNat s.payload.length
        checksum := s.stamped.checksum }) ∧
    ∀ bs s, read bs = .ok s →
      s.wire.take 22 = bs.take 22 ∧ s.wire.drop 24 = bs.drop 24 ∧
      (s.wire ≠ bs ↔ bs.wordAt 22 = 65535 ∧ 0 < otherWords bs ∧ otherWords bs % 65535 = 0) ∧
      (s.wire ≠ bs → s.wire.wordAt 22 = 0) := by
  refine ⟨fun bs => exists_read_iff, fun s hk hlength => read_wire hlength hk, ?_⟩
  intro bs s hread
  obtain ⟨code, -, hlength, hzero, -⟩ := read_eq_ok_iff.1 hread
  obtain ⟨hbytes, hwire⟩ := wire_eq_of_read hread
  obtain ⟨hmod, hfull⟩ := toNat_checksum_stamped hlength
  have := s.stamped.checksum.toNat_lt
  have hfield : bs.wordAt 22 = s.checksum.toNat := by
    rw [hbytes]
    exact Bytes.wordAt_append s.length_front s.checksum s.payload
  have hfield' : s.wire.wordAt 22 = s.stamped.checksum.toNat := by
    rw [hwire]
    exact Bytes.wordAt_append s.length_front s.stamped.checksum s.payload
  have hsum := plainSum_front_append s s.checksum s.payload
  rw [← hbytes] at hsum hmod hfull
  have hlen : bs.length ≤ 65559 := by
    have := s.length.toNat_lt
    rw [hbytes, List.length_append, length_front, List.length_append, Bytes.length_ofWord16]
    omega
  rw [checksum_eq_zero_iff hlen, hsum] at hzero
  have := s.checksum.toNat_lt
  have hsame : s.wire = bs ↔ s.stamped.checksum.toNat = s.checksum.toNat := by
    constructor
    · intro heq
      rw [← hfield', heq, hfield]
    · intro heq
      rw [hwire, UInt16.toNat_inj.1 heq]
      exact hbytes.symm
  refine ⟨?_, ?_, ?_, ?_⟩
  · rw [hwire, hbytes, take_front_append, take_front_append]
  · rw [hwire, hbytes, drop_front_append, drop_front_append]
  · rw [ne_eq, hsame, hfield]
    omega
  · rw [ne_eq, hsame, hfield']
    omega

/-! ### Two zeros -/

/-- A request to connect from port 65535, with a checksum that could also be zero. -/
def twoZeros : Bytes :=
  [0, 0, 255, 255] ++ List.replicate 18 0 ++ [255, 255]

/-- It is read as a segment, which is written with the other zero, and read again from that. -/
theorem reads_exactly_twoZeros : ∃ s, read twoZeros = .ok s ∧ s.wire ≠ twoZeros ∧
    s.wire.wordAt 22 = 0 ∧ read s.wire = .ok s.stamped := by
  obtain ⟨haccepts, hwritten, hagain⟩ := reads_exactly
  obtain ⟨s, hread⟩ := (haccepts twoZeros).2 (by decide)
  obtain ⟨-, -, hdiffers, hzero⟩ := hagain _ s hread
  have hne := hdiffers.2 (by decide)
  obtain ⟨-, -, hlength, -, hk⟩ := read_eq_ok_iff.1 hread
  have hshort : s.payload.length ≤ 65535 := by
    have := s.length.toNat_lt
    omega
  exact ⟨s, hread, hne, hzero hne, hwritten s hk hshort⟩

end Segment

end OverlayStack
