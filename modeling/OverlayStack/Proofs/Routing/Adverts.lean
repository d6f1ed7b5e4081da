import OverlayStack.Proofs.Routing.LostNeighbors
import OverlayStack.Proofs.Topology.Stars
import OverlayStack.Proofs.Wire.Framing

/-!
# Advertisements on the wire

What a node tells its neighbors about distances has one entry for each node of the topology, at any
time.  A packet has room for the entries of 185 nodes, and a topology can have 256.  In a topology
with more nodes than fit, advertisements are written like all others, but nobody ever reads one.

## Main results

* `Topology.length_nodeIds_le` — there are no more than 256 nodes.
* `DistanceVector.keys_afterUpdates` — an advertisement has one entry for each node.
* `DistanceVector.read_advertisement` — what is read of an advertisement.
* `DistanceVector.star_unread` — the advertisements in a large star are not read.
-/

namespace OverlayStack

/-! ### The nodes of a topology -/

/-- A topology has no more nodes than there are last numbers of addresses. -/
theorem Topology.length_nodeIds_le (t : Topology) : t.nodeIds.length ≤ 256 := by
  have hnodup : (t.nodeIds.map UInt32.toNat).Nodup := by
    have hne : t.nodeIds.Nodup := t.hosts.pairwise_keys.imp UInt32.ne_of_lt
    exact hne.map fun a b => UInt32.toNat_inj.1
  have hsubset : t.nodeIds.map UInt32.toNat ⊆ List.range 256 := by
    intro n hn
    obtain ⟨a, ha, rfl⟩ := List.mem_map.1 hn
    exact List.mem_range.2 (toNat_lt_of_mem_nodeIds ha)
  have hle := (hnodup.subperm hsubset).length_le
  rwa [List.length_map, List.length_range] at hle

/-! ### The entries of an advertisement -/

namespace DistanceVector

variable {s : DistanceVector}

theorem keys_own_set (d : DistanceTable) (source dest : NodeId) (cost : Cost) :
    (d.set source dest cost).own.keys = d.own.keys := by
  unfold DistanceTable.set
  split
  · exact NodeMap.keys_map _ _
  · rfl

theorem keys_own_foldl_set (source : NodeId) (entries : List (NodeId × Cost)) :
    ∀ d : DistanceTable,
      (entries.foldl (fun d e => d.set source e.1 e.2) d).own.keys = d.own.keys := by
  induction entries with
  | nil => exact fun _ => rfl
  | cons e entries ih => exact fun d => (ih _).trans (keys_own_set d source e.1 e.2)

theorem keys_own_foldl_forget (dests : List NodeId) :
    ∀ s : DistanceVector, (dests.foldl forget s).table.own.keys = s.table.own.keys := by
  induction dests with
  | nil => exact fun _ => rfl
  | cons dest dests ih => exact fun s => (ih _).trans (keys_own_set s.table s.me dest _)

theorem keys_own_consider (s : DistanceVector) (source : NodeId) (link : Cost)
    (entry : NodeId × Cost) : (s.consider source link entry).table.own.keys = s.table.own.keys := by
  obtain ⟨dest, cost⟩ := entry
  rcases s.consider_cases source link dest cost with heq | ⟨-, -, heq⟩ | ⟨-, -, -, heq⟩
  · rw [heq]
  · rw [heq, lose, keys_own_foldl_forget]
    exact keys_own_set s.table s.me source _
  · rw [heq]
    exact keys_own_set s.table s.me dest _

theorem keys_own_foldl_consider (source : NodeId) (link : Cost) (entries : List (NodeId × Cost)) :
    ∀ s : DistanceVector,
      (entries.foldl (consider source link) s).table.own.keys = s.table.own.keys := by
  induction entries with
  | nil => exact fun _ => rfl
  | cons e entries ih => exact fun s => (ih _).trans (s.keys_own_consider source link e)

/-- No update changes which nodes an advertisement names. -/
theorem keys_own_afterUpdate (s : DistanceVector) (update : NodeId × RouteUpdate) :
    (s.afterUpdate update).table.own.keys = s.table.own.keys := by
  unfold afterUpdate handle
  split
  · next s' h =>
    split at h
    · obtain rfl := Except.ok.inj h
      rw [keys_own_foldl_consider]
      exact keys_own_foldl_set _ _ _
    · cases h
  · rfl

/-- **An advertisement has one entry for each node**, whatever updates came before. -/
theorem keys_afterUpdates (t : Topology) (me : NodeId) (slots : Nat)
    (updates : List (NodeId × RouteUpdate)) :
    ((start t me slots).afterUpdates updates).advertisement.entries.map (·.1) = t.nodeIds := by
  have hkeys : ∀ s : DistanceVector, (s.afterUpdates updates).table.own.keys =
      s.table.own.keys := by
    induction updates with
    | nil => exact fun _ => rfl
    | cons update updates ih => exact fun s => (ih _).trans (s.keys_own_afterUpdate update)
  exact (hkeys _).trans (NodeMap.keys_map _ _)

/-! ### Reading an advertisement -/

theorem length_advertisement (t : Topology) (me : NodeId) (slots : Nat)
    (updates : List (NodeId × RouteUpdate)) :
    ((start t me slots).afterUpdates updates).advertisement.entries.length = t.nodeIds.length := by
  rw [← keys_afterUpdates t me slots updates, List.length_map]

theorem length_payload_advertisement (t : Topology) (me : NodeId) (slots : Nat)
    (updates : List (NodeId × RouteUpdate)) :
    (Packet.ofUpdate me
        ((start t me slots).afterUpdates updates).advertisement).payload.length =
      4 + 8 * t.nodeIds.length := by
  rw [← length_advertisement t me slots updates]
  exact RouteUpdate.length_wire _

/-- An advertisement with more than 185 entries is given up as too long. -/
theorem read_long_advertisement {t : Topology} (h : 185 < t.nodeIds.length) (me : NodeId)
    (slots : Nat) (updates : List (NodeId × RouteUpdate)) (node : Option NodeId) (rest : Bytes) :
    let p := Packet.ofUpdate me ((start t me slots).afterUpdates updates).advertisement
    Frame.read Packet node.isSome (Frame.write node p ++ rest) =
      (.error (.oversized .network (4 + 8 * t.nodeIds.length) 1488),
        p.payload ++ Frame.trailer ++ rest) := by
  intro p
  have hlength : p.payload.length = 4 + 8 * t.nodeIds.length :=
    length_payload_advertisement t me slots updates
  have hnodes := t.length_nodeIds_le
  have hmax : Packet.maxPayload = 1488 := rfl
  rw [Frame.read_write_of_maxPayload_lt (by omega) (by omega), hlength, hmax]

/-- **What is read of an advertisement.**  If there are at most 185 nodes, the packet is read as it
was sent, from a frame with or without a node, whatever stands behind it; the payload of the packet
is always the advertised vector.  If there are more nodes, the packet is given up as too long. -/
theorem read_advertisement (t : Topology) (me : NodeId) (slots : Nat)
    (updates : List (NodeId × RouteUpdate)) (node : Option NodeId) (rest : Bytes) :
    let u := ((start t me slots).afterUpdates updates).advertisement
    let p := Packet.ofUpdate me u
    u.entries.map (·.1) = t.nodeIds ∧
      RouteUpdate.read p.payload = .ok u ∧
      Frame.read Packet node.isSome (Frame.write node p ++ rest) =
        if t.nodeIds.length ≤ 185 then (.ok (node, p), rest)
        else (.error (.oversized .network (4 + 8 * t.nodeIds.length) 1488),
          p.payload ++ Frame.trailer ++ rest) := by
  intro u p
  have hcount : u.entries.length = t.nodeIds.length := length_advertisement t me slots updates
  have hlength : p.payload.length = 4 + 8 * t.nodeIds.length :=
    length_payload_advertisement t me slots updates
  have hnodes := t.length_nodeIds_le
  refine ⟨keys_afterUpdates t me slots updates, RouteUpdate.read_wire (by omega), ?_⟩
  split
  · have hsound : Message.Faithful.Sound p :=
      ⟨show PacketKind.routeUpdate ≠ .unknown by decide, show p.payload.length ≤ 1488 by omega⟩
    exact Frame.read_write hsound node rest
  · next hlong => exact read_long_advertisement (Nat.not_le.1 hlong) me slots updates node rest

/-- **Nobody reads the advertisement of a node in a star with 186 spokes.** -/
theorem star_unread : ∃ t, Topology.parse Topology.literal (Topology.starText 186) = .ok t ∧
    1 ∈ t.nodeIds ∧
      Frame.read Packet true
          (Frame.write (some broadcastId) (Packet.ofUpdate 1 (start t 1 10).advertisement)) ≠
        (.ok (some broadcastId, Packet.ofUpdate 1 (start t 1 10).advertisement), []) := by
  obtain ⟨t, hparse, hmem⟩ := Topology.parse_starText (n := 186) (by decide)
  refine ⟨t, hparse, hmem 1 (by decide) (by decide), ?_⟩
  have hlong : 185 < t.nodeIds.length := by
    have hnodup : ((List.range' 1 186).map UInt32.ofNat).Nodup := by
      refine (List.nodup_range' 1).map_on fun a ha b hb hab => ?_
      rw [List.mem_range'_1] at ha hb
      have htoNat := congrArg UInt32.toNat hab
      rw [UInt32.toNat_ofNat', UInt32.toNat_ofNat'] at htoNat
      omega
    have hsubset : (List.range' 1 186).map UInt32.ofNat ⊆ t.nodeIds := by
      intro x hx
      obtain ⟨k, hk, rfl⟩ := List.mem_map.1 hx
      rw [List.mem_range'_1] at hk
      exact hmem k (by omega) (by omega)
    have hle := (hnodup.subperm hsubset).length_le
    rw [List.length_map, List.length_range'] at hle
    omega
  have hread := read_long_advertisement hlong 1 10 [] (some broadcastId) []
  dsimp only at hread
  rw [List.append_nil] at hread
  intro heq
  exact absurd (hread.symm.trans heq) (by simp)

end DistanceVector

end OverlayStack
