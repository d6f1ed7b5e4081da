import OverlayStack.Proofs.Wire.Checksum
import OverlayStack.Wire.Segment

/-!
# Reading what was written

A segment that is read from the bytes that it was sent as is the same segment, with its length and
its checksum.  If one bit of the bytes was flipped on the way, nothing is read.

## Main results

* `Segment.checksum_wire` — the checksum of the bytes of a segment is zero.
* `Segment.read_wire` — the bytes of a segment are read as this segment.
* `Segment.eq_of_read` — a segment is read from no other bytes.
* `Segment.read_flipBit_wire` — damaged bytes are not read.
-/

namespace OverlayStack

/-- A code that has a meaning is that of its kind. -/
theorem SegmentKind.code_ofCode {code : UInt16} (h : ofCode code ≠ .unknown) :
    (ofCode code).code = code := by
  unfold ofCode at h ⊢
  grind [SegmentKind.code]

namespace Segment

theorem length_wire (s : Segment) : s.wire.length = 24 + s.payload.length := by
  rw [wire, List.length_append, length_header, headerLength]

/-- The checksum of the bytes of a segment is zero. -/
theorem checksum_wire {s : Segment} (h : s.payload.length ≤ 65535) :
    OverlayStack.checksum s.wire = 0 := by
  have hlen := length_wire s
  -- the header without and with the checksum differ in the last word only
  let fields := Bytes.ofWord32 s.sourcePort ++ Bytes.ofWord32 s.destPort ++ Bytes.ofWord32 s.seq ++
    Bytes.ofWord32 s.ack ++ Bytes.ofWord16 s.kind.code ++ Bytes.ofWord16 s.window ++
    Bytes.ofWord16 s.measured.length
  have hfields : fields.length = 22 := rfl
  have hsum : ∀ c : UInt16,
      plainSum (fields ++ Bytes.ofWord16 c ++ s.payload) =
        plainSum fields + (c.toNat + plainSum s.payload) := by
    intro c
    have := c.toNat_lt
    rw [List.append_assoc, plainSum_append (by rw [hfields]), Bytes.ofWord16, List.cons_append,
      List.cons_append, List.nil_append, plainSum, UInt8.toNat_ofNat', UInt8.toNat_ofNat']
    omega
  have hblank : plainSum (s.measured.header ++ s.payload) =
      plainSum fields + ((0 : UInt16).toNat + plainSum s.payload) := hsum 0
  have hfull : plainSum s.wire =
      plainSum fields + (s.stamped.checksum.toNat + plainSum s.payload) := hsum _
  have hzero : (0 : UInt16).toNat = 0 := rfl
  have hblanklen : (s.measured.header ++ s.payload).length ≤ 65559 := by
    rw [List.length_append, length_header, headerLength]
    omega
  have hstamp : s.stamped.checksum.toNat =
      65535 - (foldCarry (foldCarry (wordSum (s.measured.header ++ s.payload)))).toNat :=
    toNat_checksum _
  obtain ⟨hmod, hnone⟩ :=
    toNat_foldCarry_foldCarry (wordSum (s.measured.header ++ s.payload))
  have hlt := foldCarry_foldCarry_lt (wordSum (s.measured.header ++ s.payload))
  rw [toNat_wordSum hblanklen] at hmod hnone
  rw [checksum_eq_zero_iff (by omega)]
  omega

theorem split?_header_append (s : Segment) (payload : Bytes) :
    split? (s.header ++ payload) =
      some ({ s with payload }, s.kind.code) := by
  unfold split? header
  simp only [List.append_assoc, Bytes.splitWord32?_ofWord32_append,
    Bytes.splitWord16?_ofWord16_append, Option.bind_eq_bind, Option.bind_some,
    SegmentKind.ofCode_code]
  rfl

/-- **The bytes of a segment are read as this segment**, unless its kind has no meaning. -/
theorem read_wire {s : Segment} (h : s.payload.length ≤ 65535) (hk : s.kind ≠ .unknown) :
    read s.wire = .ok s.stamped := by
  have hlength : s.stamped.length.toNat = s.payload.length := by
    show (UInt16.ofNat s.payload.length).toNat = _
    rw [UInt16.toNat_ofNat', Nat.mod_eq_of_lt (by omega)]
  have hkind : s.stamped.kind ≠ .unknown := hk
  have hsplit : split? s.wire = some (s.stamped, s.stamped.kind.code) :=
    split?_header_append s.stamped s.payload
  have hvalid : validate s.wire = .ok () := by
    rw [validate, checksum_wire h]
    rfl
  unfold read
  rw [hsplit, hvalid]
  dsimp only
  rw [if_neg (by rw [hlength, payload_stamped]; exact fun hne => hne rfl), if_neg hkind]

theorem read_wire_of_unknown {s : Segment} (hk : s.kind = .unknown) :
    ∃ e, read s.wire = .error e := by
  have hsplit : split? s.wire = some (s.stamped, s.stamped.kind.code) :=
    split?_header_append s.stamped s.payload
  unfold read
  rw [hsplit]
  dsimp only
  split
  · exact ⟨_, rfl⟩
  · split
    · exact ⟨_, rfl⟩
    · rw [if_pos (show s.stamped.kind = .unknown from hk)]
      exact ⟨_, rfl⟩

/-- A byte string is split into the fields of its header and a payload. -/
theorem eq_of_split? {bs : Bytes} {s : Segment} {code : UInt16} (h : split? bs = some (s, code)) :
    s.kind = SegmentKind.ofCode code ∧
      bs = Bytes.ofWord32 s.sourcePort ++ Bytes.ofWord32 s.destPort ++ Bytes.ofWord32 s.seq ++
        Bytes.ofWord32 s.ack ++ Bytes.ofWord16 code ++ Bytes.ofWord16 s.window ++
        Bytes.ofWord16 s.length ++ Bytes.ofWord16 s.checksum ++ s.payload := by
  unfold split? at h
  simp only [Option.bind_eq_bind, Option.bind_eq_some_iff, Prod.exists,
    Bytes.splitWord32?_eq_some_iff, Bytes.splitWord16?_eq_some_iff] at h
  obtain ⟨_, _, rfl, _, _, rfl, _, _, rfl, _, _, rfl, _, _, rfl, _, _, rfl, _, _, rfl, _, _, rfl,
    heq⟩ := h
  cases heq
  simp

/-- **A segment is read from its own bytes only**: the header with its fields as they are, and as
much payload as it announces. -/
theorem eq_of_read {bs : Bytes} {s : Segment} (h : read bs = .ok s) :
    bs = s.header ++ s.payload ∧ s.payload.length = s.length.toNat := by
  unfold read at h
  split at h
  · cases h
  · next s' code hsplit =>
    split at h
    · cases h
    · next hlength =>
      split at h
      · cases h
      · split at h
        · cases h
        · next hk =>
          cases h
          obtain ⟨hkind, hbs⟩ := eq_of_split? hsplit
          rw [hkind] at hk
          refine ⟨?_, Classical.not_not.1 hlength⟩
          rw [header, hkind, SegmentKind.code_ofCode hk]
          exact hbs

/-- Bytes with another checksum than zero are no segment. -/
theorem read_of_checksum_ne_zero {bs : Bytes} (h : OverlayStack.checksum bs ≠ 0) :
    ∃ e, read bs = .error e := by
  have hinvalid : validate bs = .error (.badChecksum (OverlayStack.checksum bs)) := by
    rw [validate, if_neg h]
  unfold read
  split
  · exact ⟨_, rfl⟩
  · split
    · exact ⟨_, rfl⟩
    · rw [hinvalid]
      exact ⟨_, rfl⟩

/-- **Damaged bytes are not read.** -/
theorem read_flipBit_wire {s : Segment} (h : s.payload.length ≤ 65535) {bit : Nat}
    (hbit : bit < 8 * s.wire.length) : ∃ e, read (flipBit bit s.wire) = .error e := by
  have hlen := length_wire s
  exact read_of_checksum_ne_zero
    (checksum_flipBit_ne_zero (by omega) (checksum_wire h) hbit)

end Segment

end OverlayStack
