import Mathlib.Algebra.Order.BigOperators.Group.List
import Mathlib.Algebra.Order.Ring.Nat
import OverlayStack.Proofs.Transport.Hosts

/-!
# Room for a waiting call

A call that waits for bytes only comes back when enough of them are in the buffer, and a segment is
only taken if the buffer has room for the whole of it.  A call can wait for as many bytes as the
buffer holds.  It may so happen that too few bytes are there for the call and yet there is no room
for the next segment; then the call waits for ever, however often the segment is sent again.

Where the buffer has room for what the call waits for and a segment but one byte, this cannot
happen, and the segments that the client sends bring the call back.

## Main definitions

* `ServerHost.performAll` — commands, one after another.
* `Segment.CarryOn` — segments that carry on a stream.
* `ServerHost.demand` — how many bytes are waited for at a socket.

## Main results

* `ServerHost.Sound.step_data` — what the next segment of a stream does.
* `ServerHost.Sound.performAll_discarded` — a segment without room changes nothing.
* `ServerHost.Sound.performAll_carryOn` — enough segments bring a call back.
* `ServerHost.Reached.receive_waits` — all of this for a call that waits at a host.
* `ServerHost.starved_receive` — a call that waits for ever.
-/

namespace OverlayStack.Transport

/-- Segments that carry on the stream of a socket from a position on, none of which is longer than a
limit. -/
def Segment.CarryOn (port : UInt32) (limit : Nat) : UInt32 → List Segment → Prop
  | _, [] => True
  | seq, g :: gs => g.kind = .data ∧ g.destPort = port ∧ g.seq = seq ∧ g.payload.length ≤ limit ∧
      CarryOn port limit (seq + UInt32.ofNat g.payload.length) gs

/-- How many bytes a call waits for at a socket. -/
def ServerCall.demand (id : SocketId) : ServerCall → Nat
  | .accept _ => 0
  | .receive j length => if j = id then length else 0

/-- What a call takes from the buffer of a connected socket when it returns. -/
theorem Server.poll_connected {s s' : Server} {id : SocketId} {port : UInt32} {y : ServerConnection}
    (hsocket : s.sockets.socket? id = some ⟨port, y⟩) (hs : y.status = .connected)
    {call : ServerCall} {r : Except Error ServerAnswer} (h : s.poll call = some (s', r)) :
    ∃ rest, s'.sockets.socket? id = some ⟨port, { y with buffer := rest }⟩ ∧
      rest.length + call.demand id = y.buffer.length ∧
      ∀ length, call = .receive id length →
        ∃ data, data.length = length ∧ r = .ok (.received data) := by
  cases call with
  | accept j =>
    -- waiting for a client does not touch a buffer
    rw [poll_accept] at h
    split at h
    · cases h
    · split at h <;> (cases h; exact ⟨y.buffer, hsocket, rfl, nofun⟩)
  | receive j length =>
    rw [poll_receive] at h
    by_cases hj : j = id
    · subst hj
      rw [stateAt_eq hsocket] at h
      dsimp only at h
      split at h
      · next hle =>
        cases h
        refine ⟨y.buffer.drop length, ?_, ?_, ?_⟩
        · rw [set, SocketTable.socket?_set, if_pos rfl, hsocket]
          rfl
        · rw [ServerCall.demand, if_pos rfl, List.length_drop]
          omega
        · rintro _ ⟨⟩
          exact ⟨_, List.length_take_of_le hle, rfl⟩
      · cases h
    · refine ⟨y.buffer, ?_, ?_, ?_⟩
      · split at h
        · cases h
          rw [set, SocketTable.socket?_set, if_neg (Ne.symm hj)]
          exact hsocket
        · split at h
          · cases h
          · cases h
            exact hsocket
      · rw [ServerCall.demand, if_neg hj, Nat.add_zero]
      · rintro _ ⟨⟩
        exact absurd rfl hj

namespace ServerConnection

variable {y : ServerConnection} {capacity : Nat} {g : Segment}

theorem absorb_of_room (hseq : g.seq = y.expected)
    (hroom : y.buffer.length + g.payload.length ≤ capacity) :
    y.absorb capacity g = { y with
      buffer := y.buffer ++ g.payload
      expected := y.expected + UInt32.ofNat g.payload.length } := by
  rw [absorb, accepts, hseq, beq_self_eq_true, Bool.true_and, decide_eq_true hroom, if_pos rfl]

theorem absorb_of_full (hfull : capacity < y.buffer.length + g.payload.length) :
    y.absorb capacity g = y := by
  rw [absorb, accepts, decide_eq_false (Nat.not_le.2 hfull), Bool.and_false,
    if_neg Bool.false_ne_true]

end ServerConnection

/-- An answer that does not depend on whether it is sent. -/
theorem Server.state_answer (s : Server) (id : SocketId) (source : NodeId) (reply : Segment)
    (refuse : Refusal Error) (y : ServerConnection) :
    (s.answer id source reply refuse y y).state = s.set id y := by
  unfold answer
  split <;> rfl

namespace ServerHost

/-- The host after some commands, and what calls have returned meanwhile. -/
def performAll (h : ServerHost) :
    List ServerCommand → ServerHost × List (Nat × Except Error ServerAnswer)
  | [] => (h, [])
  | c :: cs =>
    let r := h.step c
    let (last, returned) := r.host.performAll cs
    (last, r.returned ++ returned)

/-- How many bytes calls wait for at a socket. -/
def demand (id : SocketId) (calls : List (Nat × ServerCall)) : Nat :=
  (calls.map fun call => call.2.demand id).sum

variable {settings : Settings} {h : ServerHost} {id : SocketId} {port : UInt32}
  {y : ServerConnection}

/-- When calls are looked at, those that return take their bytes from the front of the buffer. -/
theorem pollEach_connected (calls : List (Nat × ServerCall)) :
    ∀ {h : ServerHost} {y : ServerConnection},
      h.server.sockets.socket? id = some ⟨port, y⟩ → y.status = .connected →
      ∃ rest, (h.pollEach calls).1.server.sockets.socket? id =
          some ⟨port, { y with buffer := rest }⟩ ∧
        rest.length + demand id calls =
          y.buffer.length + demand id (h.pollEach calls).1.calls ∧
        ∀ number length, (number, .receive id length) ∈ calls →
          (number, .receive id length) ∈ (h.pollEach calls).1.calls ∨
          ∃ data, data.length = length ∧
            (number, .ok (.received data)) ∈ (h.pollEach calls).2 := by
  induction calls with
  | nil => exact fun hsocket _ => ⟨_, hsocket, rfl, nofun⟩
  | cons entry calls ih =>
    obtain ⟨number, call⟩ := entry
    intro h y hsocket hs
    rw [pollEach]
    cases hpoll : h.server.poll call with
    | none =>
      obtain ⟨rest, hrest, hdemand, hcalls⟩ := ih hsocket hs
      refine ⟨rest, hrest, ?_, ?_⟩
      · simp only [demand, List.map_cons, List.sum_cons] at hdemand ⊢
        omega
      · intro number' length hmem
        rcases List.mem_cons.1 hmem with heq | hmem
        · exact .inl (heq ▸ List.mem_cons_self)
        · rcases hcalls number' length hmem with hkept | hreturned
          · exact .inl (List.mem_cons_of_mem _ hkept)
          · exact .inr hreturned
    | some result =>
      obtain ⟨server, result⟩ := result
      obtain ⟨left, hleft, hlength, hresult⟩ := Server.poll_connected hsocket hs hpoll
      obtain ⟨rest, hrest, hdemand, hcalls⟩ := ih (h := { h with server }) hleft hs
      refine ⟨rest, hrest, ?_, ?_⟩
      · simp only [demand, List.map_cons, List.sum_cons] at hdemand ⊢
        omega
      · intro number' length hmem
        rcases List.mem_cons.1 hmem with heq | hmem
        · obtain ⟨rfl, hcall⟩ := Prod.mk.inj heq
          obtain ⟨data, hdata, hreceived⟩ := hresult length hcall.symm
          exact .inr ⟨data, hdata, hreceived ▸ List.mem_cons_self⟩
        · rcases hcalls number' length hmem with hkept | ⟨data, hdata, hreturned⟩
          · exact .inl hkept
          · exact .inr ⟨data, hdata, List.mem_cons_of_mem _ hreturned⟩

/-! ### The next segment -/

/-- What a host becomes that handles a segment. -/
theorem step_handle (h : ServerHost) (source : NodeId) (g : Segment) :
    (h.step (.handle source g)).host =
        { (h.handle source g).state.pollCalls.1 with commands := h.commands + 1 } ∧
      (h.step (.handle source g)).returned = (h.handle source g).state.pollCalls.2 := by
  rw [step, perform]
  dsimp only
  cases (h.handle source g).result <;> exact ⟨rfl, List.append_nil _⟩

/-- The next segment of a stream is taken or not, whether the answer to it is sent or not. -/
theorem Regular.handle_data (hr : h.Regular settings)
    (hsocket : h.server.sockets.socket? id = some ⟨port, y⟩) (hs : y.status = .connected)
    {g : Segment} (hk : g.kind = .data) (hdest : g.destPort = port) (source : NodeId) :
    (h.handle source g).state.server =
      h.server.set id (y.absorb settings.receiveCapacity g) := by
  have hlookup : h.server.lookup g = some (id, ⟨port, y⟩) := by
    rw [Server.lookup, hdest]
    exact hr.apart.find?_port hsocket
  rw [ServerHost.handle, Server.handle, hlookup]
  simp only [hs, hk]
  rw [hr.settings_eq, Server.state_answer]

/-- **The next segment of a stream**, if there is room for it, is taken, and calls take their bytes
from the front of the buffer. -/
theorem Sound.step_data (hsound : h.Sound settings)
    (hsocket : h.server.sockets.socket? id = some ⟨port, y⟩) (hs : y.status = .connected)
    {g : Segment} (hk : g.kind = .data) (hdest : g.destPort = port) (hseq : g.seq = y.expected)
    (hroom : y.buffer.length + g.payload.length ≤ settings.receiveCapacity) (source : NodeId) :
    ∃ rest, (h.step (.handle source g)).host.server.sockets.socket? id =
        some ⟨port, { y with
          buffer := rest
          expected := y.expected + UInt32.ofNat g.payload.length }⟩ ∧
      rest.length + demand id h.calls = y.buffer.length + g.payload.length +
        demand id (h.step (.handle source g)).host.calls ∧
      ∀ number length, (number, .receive id length) ∈ h.calls →
        (number, .receive id length) ∈ (h.step (.handle source g)).host.calls ∨
        ∃ data, data.length = length ∧
          (number, .ok (.received data)) ∈ (h.step (.handle source g)).returned := by
  have htaken : (h.handle source g).state.server.sockets.socket? id =
      some ⟨port, y.absorb settings.receiveCapacity g⟩ := by
    rw [hsound.handle_data hsocket hs hk hdest source, Server.set, SocketTable.socket?_set,
      if_pos rfl, hsocket]
    rfl
  rw [ServerConnection.absorb_of_room hseq hroom] at htaken
  obtain ⟨hhost, hreturned⟩ := h.step_handle source g
  obtain ⟨rest, hrest, hdemand, hcalls⟩ := pollEach_connected h.calls htaken hs
  rw [hhost, hreturned]
  refine ⟨rest, hrest, ?_, hcalls⟩
  rw [List.length_append] at hdemand
  exact hdemand

/-! ### Segments without room -/

/-- **A segment without room changes nothing**, however often it is sent. -/
theorem Sound.performAll_discarded (hsound : h.Sound settings)
    (hsocket : h.server.sockets.socket? id = some ⟨port, y⟩) (hs : y.status = .connected)
    {g : Segment} (hk : g.kind = .data) (hdest : g.destPort = port)
    (hfull : settings.receiveCapacity < y.buffer.length + g.payload.length) (source : NodeId)
    (n : Nat) :
    (h.performAll (List.replicate n (.handle source g))).1.server = h.server ∧
      (h.performAll (List.replicate n (.handle source g))).1.calls = h.calls ∧
      (h.performAll (List.replicate n (.handle source g))).2 = [] := by
  induction n generalizing h with
  | zero => exact ⟨rfl, rfl, rfl⟩
  | succ n ih =>
    have hsame : (h.handle source g).state.server = h.server := by
      rw [hsound.handle_data hsocket hs hk hdest source, ServerConnection.absorb_of_full hfull,
        Server.set, SocketTable.set_self hsocket]
    -- since nothing has changed, all calls still have to wait
    have hpoll : (h.handle source g).state.pollCalls = ((h.handle source g).state, []) := by
      apply pollEach_eq_of_waits
      rw [hsame]
      exact hsound.waits
    obtain ⟨hhost, hreturned⟩ := h.step_handle source g
    rw [hpoll] at hhost hreturned
    have hserver : (h.step (.handle source g)).host.server = h.server := by
      rw [hhost]
      exact hsame
    have hcalls : (h.step (.handle source g)).host.calls = h.calls := by
      rw [hhost]
      rfl
    have hnext : (h.step (.handle source g)).host.Sound settings := hsound.toRegular.step _
    obtain ⟨hserver', hcalls', hreturned'⟩ := ih hnext (by rw [hserver, hsocket])
    rw [List.replicate_succ, performAll]
    refine ⟨hserver'.trans hserver, hcalls'.trans hcalls, ?_⟩
    dsimp only
    rw [hreturned, hreturned']
    rfl

/-! ### Segments with room -/

theorem le_demand {number length : Nat} {calls : List (Nat × ServerCall)}
    (h : (number, .receive id length) ∈ calls) : length ≤ demand id calls := by
  apply List.le_sum_of_mem
  exact List.mem_map.2 ⟨_, h, if_pos rfl⟩

/-- **Enough segments bring a call back**, if the buffer always has room for one while the call
waits. -/
theorem Sound.performAll_carryOn {number length : Nat}
    (hroom : length + settings.maxSegment ≤ settings.receiveCapacity + 1) (source : NodeId)
    (gs : List Segment) :
    ∀ {h : ServerHost} {y : ServerConnection}, h.Sound settings →
      h.server.sockets.socket? id = some ⟨port, y⟩ → y.status = .connected →
      (number, .receive id length) ∈ h.calls →
      Segment.CarryOn port settings.maxSegment y.expected gs →
      demand id h.calls ≤ y.buffer.length + (gs.map (·.payload.length)).sum →
      ∃ data, data.length = length ∧
        (number, .ok (.received data)) ∈ (h.performAll (gs.map (.handle source))).2 := by
  induction gs with
  | nil =>
    intro h y hsound hsocket hs hwaits _ henough
    -- all bytes that are waited for are there, but the call waits for more than there are
    have hlt := (Server.poll_receive_eq_none_iff.1 (hsound.waits _ hwaits)).1
    rw [Server.stateAt_eq hsocket] at hlt
    have hle := le_demand hwaits
    rw [List.map_nil, List.sum_nil] at henough
    dsimp only at hlt
    omega
  | cons g gs ih =>
    intro h y hsound hsocket hs hwaits hcarry henough
    obtain ⟨hk, hdest, hseq, hlimit, hcarry⟩ := hcarry
    have hlt := (Server.poll_receive_eq_none_iff.1 (hsound.waits _ hwaits)).1
    rw [Server.stateAt_eq hsocket] at hlt
    dsimp only at hlt
    obtain ⟨rest, hrest, hdemand, hcalls⟩ :=
      hsound.step_data hsocket hs hk hdest hseq (by omega) source
    rw [List.map_cons, performAll]
    rcases hcalls number length hwaits with hkept | ⟨data, hdata, hreturned⟩
    · rw [List.map_cons, List.sum_cons] at henough
      obtain ⟨data, hdata, hreturned⟩ := ih (hsound.toRegular.step _) hrest hs hkept hcarry
        (by dsimp only; omega)
      exact ⟨data, hdata, List.mem_append_right _ hreturned⟩
    · exact ⟨data, hdata, List.mem_append_left _ hreturned⟩

/-! ### Calls that wait -/

/-- **A call that waits for bytes**, at any host that can be reached.  Its socket is connected and
has too few bytes for it.  The next segment of the stream is taken if there is room for the whole of
it, and otherwise changes nothing, however often it is sent.  If the socket has room for what the
call waits for and a longest segment but one byte, there is room for every next segment, and the
call comes back when as many bytes have arrived as are waited for at the socket. -/
theorem Reached.receive_waits (hreached : h.Reached settings) {number length : Nat}
    (hwaits : (number, .receive id length) ∈ h.calls) :
    ∃ socket, h.server.sockets.socket? id = some socket ∧
      socket.state.status = .connected ∧ socket.state.buffer.length < length ∧
      length ≤ settings.receiveCapacity ∧
      (∀ source g, g.kind = .data → g.destPort = socket.port → g.seq = socket.state.expected →
        (socket.state.buffer.length + g.payload.length ≤ settings.receiveCapacity →
          (h.handle source g).state.server = h.server.set id { socket.state with
            buffer := socket.state.buffer ++ g.payload
            expected := socket.state.expected + UInt32.ofNat g.payload.length }) ∧
        (settings.receiveCapacity < socket.state.buffer.length + g.payload.length → ∀ n,
          (h.performAll (List.replicate n (.handle source g))).1.server = h.server ∧
          (h.performAll (List.replicate n (.handle source g))).1.calls = h.calls ∧
          (h.performAll (List.replicate n (.handle source g))).2 = [])) ∧
      (length + settings.maxSegment ≤ settings.receiveCapacity + 1 →
        (∀ g : Segment, g.payload.length ≤ settings.maxSegment →
          socket.state.buffer.length + g.payload.length ≤ settings.receiveCapacity) ∧
        ∀ source gs,
          Segment.CarryOn socket.port settings.maxSegment socket.state.expected gs →
          demand id h.calls ≤ socket.state.buffer.length + (gs.map (·.payload.length)).sum →
          ∃ data, data.length = length ∧
            (number, .ok (.received data)) ∈ (h.performAll (gs.map (.handle source))).2) := by
  have hsound := hreached.sound
  obtain ⟨hlt, hs⟩ := Server.poll_receive_eq_none_iff.1 (hsound.waits _ hwaits)
  cases hsocket : h.server.sockets.socket? id with
  | none =>
    rw [Server.stateAt, hsocket] at hs
    cases hs
  | some socket =>
    obtain ⟨port, y⟩ := socket
    rw [Server.stateAt_eq hsocket] at hlt hs
    dsimp only at hlt hs
    refine ⟨_, rfl, hs, hlt, hsound.admitted number id length hwaits, ?_, ?_⟩
    · intro source g hk hdest hseq
      constructor
      · intro hroom
        rw [hsound.handle_data hsocket hs hk hdest source,
          ServerConnection.absorb_of_room hseq hroom]
      · intro hfull
        exact hsound.performAll_discarded hsocket hs hk hdest hfull source
    · intro hroom
      constructor
      · intro g hlimit
        dsimp only
        omega
      · intro source gs hcarry henough
        exact Sound.performAll_carryOn hroom source gs hsound hsocket hs hwaits hcarry henough

/-! ### A small buffer -/

/-- Segments of up to three bytes, for a buffer of five. -/
def fiveBytes : Settings :=
  { maxSegment := 3, receiveCapacity := 5 }

/-- The next segment of a stream from a port to a socket. -/
def nextData (seq : UInt32) (payload : Bytes) : Segment :=
  Segment.dataOf 7 9 seq payload

/-- A host that has taken a first segment and then waits for some bytes. -/
def waiting (first : Bytes) (length : Nat) : ServerHost :=
  (performAll { server := ⟨fiveBytes, .free 10⟩, link := { reason := "" } }
    [.openSocket 9, .accept 0, .handle 1 (Segment.synOf 7 9 0), .handle 1 (nextData 1 first),
      .receive 0 length]).1

theorem reached_waiting (first : Bytes) (length : Nat) :
    (waiting first length).Reached fiveBytes :=
  (((((Reached.start rfl _).step _).step _).step _).step _).step _

/-- The connection of such a host. -/
def begun (first : Bytes) : Socket ServerConnection where
  port := 9
  state := {
    clientNode := 1
    clientPort := 7
    status := .connected
    expected := 1 + UInt32.ofNat first.length
    buffer := first }

/-- Two bytes are there for a call that waits for three, and a segment of three bytes has room. -/
theorem receive_waits_fiveBytes :
    (waiting [1, 2] 3).calls = [(4, .receive 0 3)] ∧
      ∃ data, data.length = 3 ∧ (4, .ok (.received data)) ∈
        ((waiting [1, 2] 3).performAll [.handle 1 (nextData 3 [3, 4, 5])]).2 := by
  have hcalls : (waiting [1, 2] 3).calls = [(4, .receive 0 3)] := rfl
  obtain ⟨socket, hsocket, -, -, -, -, hroom⟩ :=
    (reached_waiting [1, 2] 3).receive_waits (hcalls ▸ List.mem_singleton_self _)
  have hstart : (waiting [1, 2] 3).server.sockets.socket? 0 = some (begun [1, 2]) := rfl
  obtain rfl := Option.some.inj (hstart.symm.trans hsocket)
  obtain ⟨-, hcomes⟩ := hroom (by decide)
  refine ⟨hcalls, hcomes 1 [nextData 3 [3, 4, 5]] ⟨rfl, rfl, rfl, by decide, trivial⟩ ?_⟩
  rw [hcalls]
  decide

/-- **A call that waits for ever.**  It waits for no more bytes than the buffer holds.  Three bytes
are there, and there is no room for a segment of three more, which is no longer than segments may
be. -/
theorem starved_receive :
    (waiting [1, 2, 3] 5).Reached fiveBytes ∧
      (waiting [1, 2, 3] 5).calls = [(4, .receive 0 5)] ∧ 5 ≤ fiveBytes.receiveCapacity ∧
      (waiting [1, 2, 3] 5).server.sockets.socket? 0 = some (begun [1, 2, 3]) ∧
      (nextData 4 [4, 5, 6]).seq = (begun [1, 2, 3]).state.expected ∧
      (nextData 4 [4, 5, 6]).payload.length ≤ fiveBytes.maxSegment ∧
      ((waiting [1, 2, 3] 5).handle 1 (nextData 4 [4, 5, 6])).state.server.sockets.socket? 0 =
        some (begun [1, 2, 3]) :=
  ⟨reached_waiting _ _, rfl, by decide, rfl, by decide, by decide, rfl⟩

end ServerHost

end OverlayStack.Transport
