import Mathlib.Tactic.Common
import OverlayStack.Wire.Packet

/-!
# Reading packets that were written

A packet that is read from the bytes that it was sent as is the same packet, and so is a route
update.

## Main results

* `Packet.read_wire` — the bytes of a packet are read as this packet.
* `RouteUpdate.read_wire` — the bytes of a route update are read as this update.
-/

namespace OverlayStack

namespace Packet

theorem length_wire (p : Packet) : p.wire.length = 12 + p.payload.length := by
  rw [wire, List.length_append, length_header, headerLength]

theorem split?_wire (p : Packet) :
    split? p.wire = some (UInt16.ofNat p.payload.length, p.kind.code, p) := by
  unfold split? wire header
  simp only [List.append_assoc, Bytes.splitWord32?_ofWord32_append,
    Bytes.splitWord16?_ofWord16_append, Option.bind_eq_bind, Option.bind_some,
    PacketKind.ofCode_code]
  rfl

/-- **The bytes of a packet are read as this packet**, unless its kind has no meaning. -/
theorem read_wire {p : Packet} (h : p.payload.length ≤ 65535) (hk : p.kind ≠ .unknown) :
    read p.wire = .ok p := by
  have hlength : (UInt16.ofNat p.payload.length).toNat = p.payload.length := by
    rw [UInt16.toNat_ofNat', Nat.mod_eq_of_lt (by omega)]
  unfold read
  rw [split?_wire]
  dsimp only
  rw [if_neg (by rw [hlength]; exact fun hne => hne rfl), if_neg hk]

end Packet

namespace RouteUpdate

theorem length_flatMap_entryWire (entries : List (NodeId × Cost)) :
    (entries.flatMap entryWire).length = 8 * entries.length := by
  induction entries with
  | nil => rfl
  | cons e entries ih =>
    rw [List.flatMap_cons, List.length_append, ih, List.length_cons, Nat.mul_succ, Nat.add_comm]
    rfl

theorem length_wire (u : RouteUpdate) : u.wire.length = 4 + 8 * u.entries.length := by
  rw [wire, List.length_append, length_flatMap_entryWire, Bytes.length_ofWord32]

theorem splitEntries?_flatMap_entryWire (entries : List (NodeId × Cost)) :
    splitEntries? entries.length (entries.flatMap entryWire) = some entries := by
  induction entries with
  | nil => rfl
  | cons e entries ih =>
    simp only [List.length_cons, List.flatMap_cons, entryWire, List.append_assoc, splitEntries?,
      Bytes.splitWord32?_ofWord32_append, Option.bind_eq_bind, Option.bind_some, ih]
    rfl

/-- **The bytes of a route update are read as this update**, if its entries can be counted. -/
theorem read_wire {u : RouteUpdate} (h : u.entries.length < 4294967296) : read u.wire = .ok u := by
  have hcount : (UInt32.ofNat u.entries.length).toNat = u.entries.length := by
    rw [UInt32.toNat_ofNat', Nat.mod_eq_of_lt h]
  unfold read wire
  rw [Bytes.splitWord32?_ofWord32_append]
  dsimp only
  rw [hcount, if_pos (length_flatMap_entryWire u.entries), splitEntries?_flatMap_entryWire]

end RouteUpdate

end OverlayStack
