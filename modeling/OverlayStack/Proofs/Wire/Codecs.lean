import OverlayStack.Proofs.Wire.Decoding
import OverlayStack.Proofs.Wire.Packet

/-!
# The byte strings that are packets and route updates

Packets and route updates have no checksum, so that each of them has just one byte string and each
byte string at most one meaning.  A byte string is a packet exactly if it is as long as its header
says and its kind has a meaning, and a route update exactly if it is as long as its count says.  A
packet with more bytes than the length field can say is written all the same, but it is read by
nobody: the length that it announces is too small.

## Main definitions

* `Bytes.longAt` — the long word at a place of a byte string.

## Main results

* `Packet.wire_eq_of_read`, `RouteUpdate.wire_eq_of_read` — what is read is written as it was.
* `Packet.exists_read_iff`, `RouteUpdate.exists_read_iff` — when something is read.
* `Packet.read_wire_of_oversized` — a packet that is too long for its header is not read.
* `Packet.codecs_inverse` — reading and writing undo each other, for packets and for route updates.
-/

namespace OverlayStack

/-! ### Long words of a byte string -/

namespace Bytes

/-- The long word at a place of a byte string, high byte first. -/
def longAt (bs : Bytes) (i : Nat) : Nat :=
  bs.wordAt i * 65536 + bs.wordAt (i + 2)

/-- A long word is written as its two halves. -/
theorem ofWord32_eq (w : UInt32) :
    ofWord32 w = ofWord16 (UInt16.ofNat (w.toNat / 65536)) ++ ofWord16 (UInt16.ofNat w.toNat) := by
  have := w.toNat_lt
  simp only [ofWord32, ofWord16, List.cons_append, List.nil_append, List.cons.injEq, and_true,
    ← UInt8.toNat_inj, UInt8.toNat_ofNat', UInt16.toNat_ofNat']
  omega

/-- A long word is found where it was written. -/
theorem longAt_append {front : Bytes} {i : Nat} (h : front.length = i) (w : UInt32)
    (back : Bytes) : (front ++ (ofWord32 w ++ back)).longAt i = w.toNat := by
  have hplace : (front ++ ofWord16 (UInt16.ofNat (w.toNat / 65536))).length = i + 2 := by
    rw [List.length_append, h, length_ofWord16]
  have hhigh := wordAt_append h (UInt16.ofNat (w.toNat / 65536))
    (ofWord16 (UInt16.ofNat w.toNat) ++ back)
  have hlow := wordAt_append hplace (UInt16.ofNat w.toNat) back
  rw [List.append_assoc] at hlow
  have := w.toNat_lt
  rw [longAt, ofWord32_eq, List.append_assoc, hhigh, hlow, UInt16.toNat_ofNat',
    UInt16.toNat_ofNat']
  omega

/-- Four bytes make a word of 32 bits. -/
theorem longAt_lt (bs : Bytes) (i : Nat) : bs.longAt i < 4294967296 := by
  have hbyte : ∀ j, (bs.getD j 0).toNat < 256 := fun j => (bs.getD j 0).toNat_lt
  have := hbyte i
  have := hbyte (i + 1)
  have := hbyte (i + 2)
  have := hbyte (i + 2 + 1)
  unfold longAt wordAt
  omega

end Bytes

/-! ### Route updates -/

namespace RouteUpdate

variable {bs : Bytes} {u : RouteUpdate} {n : Nat} {entries : List (NodeId × Cost)}

/-- Entries that are split off are written as the bytes they were split off from. -/
theorem eq_of_splitEntries? (hlen : bs.length = 8 * n) (h : splitEntries? n bs = some entries) :
    entries.length = n ∧ bs = entries.flatMap entryWire := by
  induction n generalizing bs entries with
  | zero =>
    cases h
    exact ⟨rfl, List.length_eq_zero_iff.1 hlen⟩
  | succ n ih =>
    simp only [splitEntries?, Option.bind_eq_bind, Option.bind_eq_some_iff, Prod.exists,
      Bytes.splitWord32?_eq_some_iff] at h
    obtain ⟨node, _, rfl, cost, rest, rfl, entries, hrest, heq⟩ := h
    cases heq
    simp only [List.length_append, Bytes.length_ofWord32] at hlen
    obtain ⟨hcount, hbytes⟩ := ih (by omega) hrest
    refine ⟨congrArg (· + 1) hcount, ?_⟩
    rw [List.flatMap_cons, entryWire, List.append_assoc, ← hbytes]

/-- Enough bytes can be split into entries. -/
theorem exists_splitEntries? (h : 8 * n ≤ bs.length) :
    ∃ entries, splitEntries? n bs = some entries := by
  induction n generalizing bs with
  | zero => exact ⟨[], rfl⟩
  | succ n ih =>
    obtain ⟨node, bs₁, h₁, hlen₁⟩ := Bytes.exists_splitWord32? (show 4 ≤ bs.length by omega)
    obtain ⟨cost, bs₂, h₂, hlen₂⟩ := Bytes.exists_splitWord32? (show 4 ≤ bs₁.length by omega)
    obtain ⟨entries, hrest⟩ := ih (show 8 * n ≤ bs₂.length by omega)
    exact ⟨(node, cost) :: entries, by simp [splitEntries?, h₁, h₂, hrest]⟩

/-- **What is read** from a byte string. -/
theorem read_eq_ok_iff : read bs = .ok u ↔
    ∃ count rest, Bytes.splitWord32? bs = some (count, rest) ∧
      rest.length = 8 * count.toNat ∧ splitEntries? count.toNat rest = some u.entries := by
  unfold read
  cases hcount : Bytes.splitWord32? bs with
  | none => simp
  | some fields =>
    obtain ⟨count, rest⟩ := fields
    dsimp only
    split
    · cases hentries : splitEntries? count.toNat rest with
      | none => grind
      | some entries => cases u; grind
    · grind

/-- **A route update that was read is written as it was.** -/
theorem wire_eq_of_read (h : read bs = .ok u) : u.wire = bs := by
  obtain ⟨count, rest, hcount, hlen, hentries⟩ := read_eq_ok_iff.1 h
  obtain ⟨hlength, hrest⟩ := eq_of_splitEntries? hlen hentries
  rw [wire, hlength, UInt32.ofNat_toNat, ← hrest]
  exact (Bytes.splitWord32?_eq_some_iff.1 hcount).symm

/-- **When a route update is read** from a byte string. -/
theorem exists_read_iff : (∃ u, read bs = .ok u) ↔
    4 ≤ bs.length ∧ bs.length = 4 + 8 * bs.longAt 0 := by
  have hfield : ∀ count rest, Bytes.splitWord32? bs = some (count, rest) →
      bs.longAt 0 = count.toNat ∧ bs.length = 4 + rest.length := by
    intro count rest h
    obtain rfl := Bytes.splitWord32?_eq_some_iff.1 h
    have hplace : ([] : Bytes).length = 0 := rfl
    refine ⟨Bytes.longAt_append hplace count rest, ?_⟩
    rw [List.length_append, Bytes.length_ofWord32]
  constructor
  · rintro ⟨u, hread⟩
    obtain ⟨count, rest, hcount, hlen, -⟩ := read_eq_ok_iff.1 hread
    obtain ⟨hvalue, hbytes⟩ := hfield count rest hcount
    omega
  · rintro ⟨hlong, hlen⟩
    obtain ⟨count, rest, hcount, -⟩ := Bytes.exists_splitWord32? hlong
    obtain ⟨hvalue, hbytes⟩ := hfield count rest hcount
    obtain ⟨entries, hentries⟩ :=
      exists_splitEntries? (show 8 * count.toNat ≤ rest.length by omega)
    exact ⟨⟨entries⟩, read_eq_ok_iff.2 ⟨count, rest, hcount, by omega, hentries⟩⟩

/-- The length that a count announces fits a word of 64 bits. -/
theorem toNat_announced (bs : Bytes) :
    (4 + UInt64.ofNat (bs.longAt 0) * 8).toNat = 4 + 8 * bs.longAt 0 := by
  have := bs.longAt_lt 0
  simp only [UInt64.toNat_add, UInt64.toNat_mul, UInt64.toNat_ofNat', UInt64.reduceToNat]
  omega

end RouteUpdate

/-! ### Packets -/

/-- A kind has a meaning exactly if its code is one or two. -/
theorem PacketKind.ofCode_ne_unknown_iff {code : UInt16} :
    ofCode code ≠ .unknown ↔ code.toNat = 1 ∨ code.toNat = 2 := by
  simp only [ofCode, ← UInt16.toNat_inj, UInt16.reduceToNat]
  split_ifs <;> simp <;> omega

/-- A code that has a meaning is that of its kind. -/
theorem PacketKind.code_ofCode {code : UInt16} (h : ofCode code ≠ .unknown) :
    (ofCode code).code = code := by
  unfold ofCode at h ⊢
  grind [PacketKind.code]

namespace Packet

variable {bs : Bytes} {p : Packet} {length code : UInt16}

/-- Enough bytes can be split into the fields of a header and a payload. -/
theorem exists_split? (h : 12 ≤ bs.length) :
    ∃ length code p, split? bs = some (length, code, p) := by
  obtain ⟨source, bs₁, h₁, hlen₁⟩ := Bytes.exists_splitWord32? (show 4 ≤ bs.length by omega)
  obtain ⟨dest, bs₂, h₂, hlen₂⟩ := Bytes.exists_splitWord32? (show 4 ≤ bs₁.length by omega)
  obtain ⟨length, bs₃, h₃, hlen₃⟩ := Bytes.exists_splitWord16? (show 2 ≤ bs₂.length by omega)
  obtain ⟨code, payload, h₄, -⟩ := Bytes.exists_splitWord16? (show 2 ≤ bs₃.length by omega)
  simp [split?, h₁, h₂, h₃, h₄]

/-- A byte string is split into the fields of its header and a payload. -/
theorem eq_of_split? (h : split? bs = some (length, code, p)) :
    p.kind = PacketKind.ofCode code ∧
      bs = Bytes.ofWord32 p.source ++ Bytes.ofWord32 p.dest ++ Bytes.ofWord16 length ++
        Bytes.ofWord16 code ++ p.payload := by
  unfold split? at h
  simp only [Option.bind_eq_bind, Option.bind_eq_some_iff, Prod.exists,
    Bytes.splitWord32?_eq_some_iff, Bytes.splitWord16?_eq_some_iff] at h
  obtain ⟨_, _, rfl, _, _, rfl, _, _, rfl, _, _, rfl, heq⟩ := h
  cases heq
  simp

/-- **What is read** from a byte string. -/
theorem read_eq_ok_iff : read bs = .ok p ↔ ∃ length code, split? bs = some (length, code, p) ∧
    p.payload.length = length.toNat ∧ p.kind ≠ .unknown := by
  unfold read
  cases hsplit : split? bs with
  | none => simp
  | some fields =>
    obtain ⟨length, code, p'⟩ := fields
    dsimp only
    split_ifs <;> grind

/-- **A packet that was read is written as it was.** -/
theorem wire_eq_of_read (h : read bs = .ok p) : p.wire = bs := by
  obtain ⟨length, code, hsplit, hlen, hk⟩ := read_eq_ok_iff.1 h
  obtain ⟨hkind, hbytes⟩ := eq_of_split? hsplit
  rw [hkind] at hk
  rw [wire, header, hlen, UInt16.ofNat_toNat, hkind, PacketKind.code_ofCode hk]
  exact hbytes.symm

/-- The fields of a byte string are found at their places. -/
theorem wordAt_of_split? (h : split? bs = some (length, code, p)) :
    bs.length = 12 + p.payload.length ∧ bs.wordAt 8 = length.toNat ∧
      bs.wordAt 10 = code.toNat := by
  obtain ⟨-, rfl⟩ := eq_of_split? h
  refine ⟨?_, ?_, ?_⟩
  · simp only [List.length_append, Bytes.length_ofWord32, Bytes.length_ofWord16]
  · have hplace : (Bytes.ofWord32 p.source ++ Bytes.ofWord32 p.dest).length = 8 := rfl
    simpa only [List.append_assoc] using
      Bytes.wordAt_append hplace length (Bytes.ofWord16 code ++ p.payload)
  · have hplace : (Bytes.ofWord32 p.source ++ Bytes.ofWord32 p.dest ++
      Bytes.ofWord16 length).length = 10 := rfl
    simpa only [List.append_assoc] using Bytes.wordAt_append hplace code p.payload

/-- **When a packet is read** from a byte string. -/
theorem exists_read_iff : (∃ p, read bs = .ok p) ↔
    12 ≤ bs.length ∧ bs.length = 12 + bs.wordAt 8 ∧ (bs.wordAt 10 = 1 ∨ bs.wordAt 10 = 2) := by
  constructor
  · rintro ⟨p, hread⟩
    obtain ⟨length, code, hsplit, hlen, hk⟩ := read_eq_ok_iff.1 hread
    obtain ⟨hbytes, hlength, hcode⟩ := wordAt_of_split? hsplit
    rw [(eq_of_split? hsplit).1, PacketKind.ofCode_ne_unknown_iff, ← hcode] at hk
    exact ⟨by omega, by omega, hk⟩
  · rintro ⟨hlong, hbytes, hk⟩
    obtain ⟨length, code, p, hsplit⟩ := exists_split? hlong
    obtain ⟨hbytes', hlength, hcode⟩ := wordAt_of_split? hsplit
    rw [hcode, ← PacketKind.ofCode_ne_unknown_iff, ← (eq_of_split? hsplit).1] at hk
    exact ⟨p, read_eq_ok_iff.2 ⟨length, code, hsplit, by omega, hk⟩⟩

/-- **A packet that is too long for its header is not read**: the header announces what is left of
its length after division by 65536. -/
theorem read_wire_of_oversized (h : 65535 < p.payload.length) :
    read p.wire = .error (.wrongLength (p.payload.length % 65536) p.payload.length) := by
  have hlength : (UInt16.ofNat p.payload.length).toNat = p.payload.length % 65536 :=
    UInt16.toNat_ofNat'
  unfold read
  rw [split?_wire]
  dsimp only
  rw [if_pos (by rw [hlength]; omega), hlength]

/-- **Reading and writing undo each other**, for packets and for route updates.

A packet of a known kind is read from its own bytes, and a packet that was read is written as the
bytes that it was read from.  These are the byte strings that are as long as their header says and
whose kind has a meaning.  A packet that is too long for its header is never read, neither as itself
nor as another one.  A route update is read from its own bytes, with its entries in order, and one
that was read is written as it was.  These are the byte strings that are as long as their count
says, and that length fits a word of 64 bits. -/
theorem codecs_inverse :
    (∀ p : Packet, p.kind ≠ .unknown → p.payload.length ≤ 65535 → read p.wire = .ok p) ∧
    (∀ bs p, read bs = .ok p → p.wire = bs) ∧
    (∀ bs : Bytes, (∃ p, read bs = .ok p) ↔
      12 ≤ bs.length ∧ bs.length = 12 + bs.wordAt 8 ∧ (bs.wordAt 10 = 1 ∨ bs.wordAt 10 = 2)) ∧
    (∀ p : Packet, 65535 < p.payload.length →
      read p.wire = .error (.wrongLength (p.payload.length % 65536) p.payload.length)) ∧
    (∀ u : RouteUpdate, u.entries.length < 4294967296 → RouteUpdate.read u.wire = .ok u) ∧
    (∀ bs u, RouteUpdate.read bs = .ok u → u.wire = bs) ∧
    (∀ bs : Bytes, (∃ u, RouteUpdate.read bs = .ok u) ↔
      4 ≤ bs.length ∧ bs.length = 4 + 8 * bs.longAt 0) ∧
    ∀ bs : Bytes, (4 + UInt64.ofNat (bs.longAt 0) * 8).toNat = 4 + 8 * bs.longAt 0 := by
  refine ⟨fun p hk h => read_wire h hk, fun bs p => wire_eq_of_read, fun bs => exists_read_iff,
    fun p => read_wire_of_oversized, fun u => RouteUpdate.read_wire,
    fun bs u => RouteUpdate.wire_eq_of_read, fun bs => RouteUpdate.exists_read_iff,
    RouteUpdate.toNat_announced⟩

/-- The notice that node 9 has failed, as it travels. -/
def noticeBytes : Bytes :=
  [0, 0, 0, 9, 0, 0, 39, 15, 0, 12, 0, 1] ++ [0, 0, 0, 1, 0, 0, 0, 9, 0, 0, 3, 231]

/-- A packet with one byte more than its header can announce. -/
def overlongPacket : Packet :=
  { payload := List.replicate 65536 0 }

theorem length_overlongPacket : overlongPacket.payload.length = 65536 :=
  List.length_replicate

/-- The notice is read from its bytes, the failure from its payload, and both are written as they
were.  The bytes of the packet that is too long are not read: they announce an empty payload. -/
theorem codecs_inverse_failureNotice :
    read noticeBytes = .ok (failureNotice 9) ∧ (failureNotice 9).wire = noticeBytes ∧
      RouteUpdate.read (noticeBytes.drop 12) = .ok (.failure 9) ∧
      (RouteUpdate.failure 9).wire = noticeBytes.drop 12 ∧
      read overlongPacket.wire = .error (.wrongLength 0 65536) := by
  obtain ⟨hpacket, hagain, -, hlong, hupdate, hagain', -⟩ := codecs_inverse
  have hread : read noticeBytes = .ok (failureNotice 9) :=
    hpacket (failureNotice 9) (by decide) (by decide)
  have hread' : RouteUpdate.read (noticeBytes.drop 12) = .ok (.failure 9) :=
    hupdate (.failure 9) (by decide)
  have hrefused := hlong overlongPacket (by rw [length_overlongPacket]; omega)
  rw [length_overlongPacket] at hrefused
  exact ⟨hread, hagain _ _ hread, hread', hagain' _ _ hread', hrefused⟩

end Packet

end OverlayStack
