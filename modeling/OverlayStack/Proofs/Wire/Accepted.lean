import OverlayStack.Proofs.Wire.Arrivals
import OverlayStack.Proofs.Wire.Codecs

/-!
# The messages that a stream brings

Of a stream of arbitrary bytes, a reader accepts the messages in those frames that it can read, and
skips the rest.  What it accepts does not depend on how the stream arrives, and a frame that is
skipped costs nothing but itself: without its bytes, the same messages are accepted.  Messages that
were accepted and are written again, one after another, are accepted again.

## Main definitions

* `Frame.accepted` — the messages that the reads of a stream accept.

## Main results

* `Frame.filterMap_readAvailable` — the same messages are accepted as they arrive.
* `Frame.accepted_append` — a stream can be cut anywhere.
* `Frame.accepted_skip` — what is skipped does not matter.
* `Frame.sound_of_mem_accepted` — packets that were accepted can be written again.
* `Frame.map_fst_readAll_write` — what was written is read, and then the end.
-/

namespace OverlayStack

/-- A notice of failure can be written. -/
theorem Packet.sound_failureNotice (id : NodeId) : Message.Faithful.Sound (failureNotice id) := by
  have hlength : (failureNotice id).payload.length = 12 := RouteUpdate.length_wire _
  have hmax : maxPayload = 1488 := rfl
  exact ⟨PacketKind.noConfusion, by omega⟩

namespace Frame

variable {α : Type} [Message α] {withNode : Bool}

/-- The messages that the reads of a stream accept, with the nodes in their frames. -/
def accepted (α : Type) [Message α] (withNode : Bool) (stream : Bytes) :
    List (Option NodeId × α) :=
  gotten (readAll α withNode stream)

/-- The message that a read accepts. -/
def message? (α : Type) [Message α] (result : Except FrameError (Option NodeId × Bytes)) :
    Option (Option NodeId × α) :=
  (decoded α result).toOption

/-! ### Streams that arrive -/

/-- The reads of a whole stream are those that are complete while it arrives, and one more that
finds the end. -/
theorem Cuts.map_fst {stream : Bytes}
    {calls : List (Except FrameError (Option NodeId × Bytes) × Bytes)}
    (h : Cuts α withNode stream calls) :
    calls.map (·.1) = (readAvailable α withNode stream).1 ++ [.error (.closed .ended)] := by
  induction h with
  | ended hexhausts =>
    rw [readAvailable_of_isEnd (isEnd_readRaw_iff.2 hexhausts)]
    rfl
  | taken hspan _ ih =>
    rw [readAvailable_of_span hspan, List.map_cons, ih]
    rfl

/-- **The same messages are accepted** while a stream arrives and when all of it is there. -/
theorem filterMap_readAvailable (stream : Bytes) :
    (readAvailable α withNode stream).1.filterMap (message? α) = accepted α withNode stream := by
  have hcuts : Cuts α withNode stream _ := cuts_readAllRaw stream
  have hall := congrArg (List.filterMap (message? α)) hcuts.map_fst
  rw [List.filterMap_append, List.filterMap_map] at hall
  rw [accepted, gotten, readAll, List.filterMap_map]
  exact (hall.trans (List.append_nil _)).symm

/-- **A stream can be cut anywhere**: what is left of its front is read with what follows. -/
theorem accepted_append (front back : Bytes) :
    accepted α withNode (front ++ back) = accepted α withNode front ++
      accepted α withNode ((readAvailable α withNode front).2 ++ back) := by
  rw [← filterMap_readAvailable, ← filterMap_readAvailable, ← filterMap_readAvailable,
    readAvailable_append, List.filterMap_append]

/-- Nothing more is accepted of what is left. -/
theorem accepted_rest (stream : Bytes) :
    accepted α withNode (readAvailable α withNode stream).2 = [] := by
  have hsplit : accepted α withNode (stream ++ []) = _ := accepted_append stream []
  rw [List.append_nil, List.append_nil] at hsplit
  exact List.self_eq_append_right.1 hsplit

theorem accepted_nil : accepted α withNode [] = [] := by
  rw [← filterMap_readAvailable, readAvailable_nil]
  rfl

/-- **What is skipped does not matter.**  Behind reads that have left nothing, a read that accepts
no message can be left out. -/
theorem accepted_skip {front bad : Bytes}
    (hfront : (readAvailable α withNode front).2 = [])
    {result : Except FrameError (Option NodeId × Bytes)} (hbad : Span α withNode bad result)
    (hnone : message? α result = none) (back : Bytes) :
    accepted α withNode (front ++ bad ++ back) = accepted α withNode (front ++ back) := by
  have hskip : accepted α withNode (bad ++ back) = accepted α withNode back := by
    rw [← filterMap_readAvailable, readAvailable_of_span hbad, List.filterMap_cons_none hnone,
      filterMap_readAvailable]
  rw [List.append_assoc, accepted_append, accepted_append front back, hfront, List.nil_append,
    List.nil_append, hskip]

/-! ### Packets -/

/-- A packet that is decoded from the bytes in a frame fits into a frame, and its kind is known. -/
theorem sound_of_decode {body : Bytes} (hfits : Fits Packet body) {p : Packet}
    (h : Message.decode body = .ok p) : Message.Faithful.Sound p := by
  have hread : Packet.read body = .ok p := by
    change (Packet.read body).mapError MessageError.packet = .ok p at h
    cases hread : Packet.read body with
    | error e => rw [hread] at h; cases h
    | ok q => rw [hread] at h; cases h; rfl
  obtain ⟨length, code, hsplit, -, hkind⟩ := Packet.read_eq_ok_iff.1 hread
  obtain ⟨hlength, -, -⟩ := Packet.wordAt_of_split? hsplit
  have hbody := hfits.length_eq
  have hle := hfits.announced_le
  rw [show Message.headerLength Packet = 12 from rfl] at hbody hle
  rw [show Message.maxPayload Packet = Packet.maxPayload from rfl] at hle
  exact ⟨hkind, by omega⟩

/-- **Packets that were accepted can be written again.** -/
theorem sound_of_mem_accepted {stream : Bytes} {node : Option NodeId} {p : Packet}
    (h : (node, p) ∈ accepted Packet withNode stream) : Message.Faithful.Sound p := by
  have hcuts : Cuts Packet withNode stream _ := cuts_readAllRaw stream
  obtain ⟨items, -, -, hitems, hgotten⟩ := hcuts.exists_items
  rw [accepted, gotten_readAll, hgotten, List.mem_filterMap] at h
  obtain ⟨_, hmem, hdecoded⟩ := h
  obtain ⟨i, hi, rfl⟩ := List.mem_map.1 hmem
  refine sound_of_decode (hitems i hi).2 ?_
  rw [decoded] at hdecoded
  split at hdecoded
  · cases hdecoded
  · next message hmessage =>
    obtain ⟨-, rfl⟩ := Prod.mk.inj (Option.some.inj hdecoded)
    exact hmessage

/-! ### Messages that are written again -/

/-- **What was written is read, and then the end.** -/
theorem map_fst_readAll_write [Message.Faithful α] (node : Option NodeId) {messages : List α}
    (h : ∀ m ∈ messages, Message.Faithful.Sound m) :
    (readAll α node.isSome (messages.flatMap (write node))).map (·.1) =
      messages.map (fun m => .ok (node, Message.Faithful.received m)) ++
        [.error (.closed .ended)] := by
  have hcuts : Cuts α node.isSome (messages.flatMap (write node)) _ := cuts_readAllRaw _
  have hall := congrArg (List.map (decoded α)) hcuts.map_fst
  rw [readAvailable_write node h, List.map_append, List.map_map] at hall
  rw [readAll, List.map_map]
  refine hall.trans (congrArg (· ++ _) ?_)
  rw [List.map_map]
  exact List.map_congr_left fun m hm => decoded_encode (h m hm) node

end Frame

end OverlayStack
