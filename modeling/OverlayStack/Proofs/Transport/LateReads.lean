import OverlayStack.Proofs.Transport.Agreement

/-!
# Reads around the end of a stream

A call that waits for bytes returns as soon as they are there, even if the client has asked to
disconnect meanwhile.  A call that only begins after the server has heard of this does not get any
bytes, although all that the client has sent may still be in the buffer.

## Main definitions

* `Session.Reads` — a call of the server returns the first bytes of the buffer.

## Main results

* `Session.Begins.length_buffer_le` — a socket never holds more than it has room for.
* `Session.late_reads` — which calls return bytes, and which bytes these are.
* `Session.unread_after_fin` — bytes that are never read.
-/

namespace OverlayStack.Transport

deriving instance DecidableEq for ServerCall

/-! ### The server -/

namespace Server.Sole

variable {s : Server} {settings : Settings} {id : SocketId} {port : UInt32} {y : ServerConnection}
  {length : Nat}

theorem receive_of_connected (h : s.Sole settings id port y) (hs : y.status = .connected)
    (hle : length ≤ settings.receiveCapacity) :
    s.receive id length = .ok (.receive id length) := by
  unfold Server.receive
  rw [h.sockets.require_self, h.settings_eq]
  simp only [bind, Except.bind]
  rw [if_neg (Nat.not_lt.2 hle), if_pos hs]
  rfl

theorem receive_of_ne (h : s.Sole settings id port y) (hs : y.status ≠ .connected)
    (hle : length ≤ settings.receiveCapacity) :
    s.receive id length = .error (.invalidState id y.status .connected) := by
  unfold Server.receive
  rw [h.sockets.require_self, h.settings_eq]
  simp only [bind, Except.bind]
  rw [if_neg (Nat.not_lt.2 hle), if_neg hs]
  rfl

/-- A call whose bytes are there returns them, whatever has become of the connection. -/
theorem poll_of_le (h : s.Sole settings id port y) (hle : length ≤ y.buffer.length) :
    s.poll (.receive id length) =
      some (s.set id { y with buffer := y.buffer.drop length },
        .ok (.received (y.buffer.take length))) := by
  simp only [Server.poll]
  rw [h.sockets, if_pos rfl]
  exact if_pos hle

end Server.Sole

/-- A socket that holds no more than it has room for does so after a segment, too. -/
theorem ServerConnection.Heeds.length_buffer_le {capacity : Nat} {y y' : ServerConnection}
    {source : NodeId} {g : Segment} {sent : List Segment}
    (h : y.Heeds capacity source g y' sent) (hy : y.buffer.length ≤ capacity) :
    y'.buffer.length ≤ capacity := by
  cases h with
  | ignored => exact hy
  | restarted => exact Nat.zero_le _
  | left now =>
    rw [(y.leaving_stream now).1]
    exact hy
  | absorbed =>
    unfold absorb
    split
    · next haccepts =>
      unfold accepts at haccepts
      rw [Bool.and_eq_true, decide_eq_true_iff] at haccepts
      rw [List.length_append]
      exact haccepts.2
    · exact hy

/-! ### The buffer -/

/-- A socket that holds no more than it has room for does so after a turn, too. -/
theorem Scene.Turn.length_buffer_le {e : Ends} {node : NodeId} {v v' : Scene} {m m' : CallMarks}
    {event : Event} (h : v.Turn e node m event v' m')
    (hv : v.server.buffer.length ≤ e.serverSettings.receiveCapacity) :
    v'.server.buffer.length ≤ e.serverSettings.receiveCapacity := by
  cases h with
  | begun => exact hv
  | toClient => exact hv
  | toServer _ _ hy => exact hy.length_buffer_le hv
  | quiet hmove _ =>
    cases hmove with
    | toServer _ hy => exact hy.length_buffer_le hv
    | read hr =>
      rw [hr, List.length_append] at hv
      exact Nat.le_trans (Nat.le_add_left _ _) hv
    | _ => exact hv

namespace Session

variable {s : Session} {e : Ends} {seq : UInt32} {events : List Event} {v : Scene}

/-- **A socket never holds more than it has room for.** -/
theorem Begins.length_buffer_le (h : s.Begins e seq) (events : List Event) :
    ∃ v, s.Follows e events v ∧
      v.server.buffer.length ≤ e.serverSettings.receiveCapacity := by
  induction events using List.reverseRecOn with
  | nil =>
    obtain ⟨v, hv⟩ := h.follows []
    refine ⟨v, hv, ?_⟩
    -- nothing has arrived yet
    have hsocket := (Tracks.socket?_eq hv.shows).2
    rw [run_nil, (Tracks.socket?_eq h.shows).2] at hsocket
    obtain ⟨-, hserver⟩ := Socket.mk.inj (Option.some.inj hsocket)
    rw [← hserver]
    exact Nat.zero_le _
  | append_singleton events event ih =>
    obtain ⟨v, hv, hle⟩ := ih
    obtain ⟨v', hv', hturn⟩ := hv.snoc h.maxSegment event
    exact ⟨v', hv', hturn.length_buffer_le hle⟩

/-! ### Calls -/

/-- Between the two sessions, a call of the server returns a number of bytes from the front of the
buffer of a connection. -/
structure Reads (s : Session) (e : Ends) (y : ServerConnection) (length : Nat) (s' : Session) :
    Prop where
  log_eq : s'.serverLog = .ok (.received (y.buffer.take length)) :: s.serverLog
  socket_eq : s'.server.sockets.socket? e.serverId =
    some ⟨e.serverPort, { y with buffer := y.buffer.drop length }⟩

namespace Shows

/-- A call that waits returns its bytes as soon as they are there. -/
theorem reads_poll (h : s.Shows e v) {place length : Nat}
    (hcall : s.serverCalls[place]? = some (.receive e.serverId length))
    (hle : length ≤ v.server.buffer.length) :
    s.Reads e v.server length (s.step (.poll place)) := by
  rw [Session.step, Session.poll, hcall]
  dsimp only
  rw [h.server.poll_of_le hle]
  refine ⟨rfl, ?_⟩
  have hsole := h.server.set { v.server with buffer := v.server.buffer.drop length }
  rw [hsole.sockets, if_pos rfl]

/-- A call that begins on a connection waits. -/
theorem step_receive (h : s.Shows e v) (hs : v.server.status = .connected) {length : Nat}
    (hle : length ≤ e.serverSettings.receiveCapacity) :
    s.step (.receive e.serverId length) =
      { s with serverCalls := s.serverCalls ++ [.receive e.serverId length] } := by
  rw [Session.step, h.server.receive_of_connected hs hle]

/-- A call that begins when there is no connection any more returns no bytes. -/
theorem step_receive_of_ne (h : s.Shows e v) (hs : v.server.status ≠ .connected) {length : Nat}
    (hle : length ≤ e.serverSettings.receiveCapacity) :
    s.step (.receive e.serverId length) =
      { s with
        serverLog := .error (.invalidState e.serverId v.server.status .connected) ::
          s.serverLog } := by
  rw [Session.step, h.server.receive_of_ne hs hle]

/-- A call that begins on a connection returns its bytes at once if they are there. -/
theorem reads_receive (h : s.Shows e v) (hs : v.server.status = .connected) {length : Nat}
    (hroom : v.server.buffer.length ≤ e.serverSettings.receiveCapacity)
    (hle : length ≤ v.server.buffer.length) :
    s.Reads e v.server length
      (s.run [.receive e.serverId length, .poll s.serverCalls.length]) := by
  rw [run_cons, h.step_receive hs (Nat.le_trans hle hroom)]
  have hnext : Shows { s with serverCalls := s.serverCalls ++ [.receive e.serverId length] } e v :=
    ⟨h.client, h.calls, h.up, h.server, h.down, h.returned⟩
  have hcall : (s.serverCalls ++ [.receive e.serverId length])[s.serverCalls.length]? =
      some (.receive e.serverId length) :=
    List.getElem?_concat_length
  obtain ⟨hlog, hsocket⟩ := hnext.reads_poll hcall hle
  exact ⟨hlog, hsocket⟩

/-- A client without pending segments has none. -/
theorem segments_of_pending (h : s.Shows e v) (hnone : s.client.pending e.clientId = .ok 0) :
    v.client.buffer.segments = [] := by
  rw [Client.pending, h.client.sockets.require_self] at hnone
  have hlength : v.client.buffer.length = 0 := Except.ok.inj hnone
  rw [SendBuffer.length] at hlength
  rw [← List.length_eq_zero_iff, SendBuffer.segments, List.length_append, List.length_map]
  exact hlength

end Shows

/-! ### The stream -/

/-- When the client has nothing pending, the server has taken all that it has accepted. -/
theorem Tracks.taken_of_pending {pieces taken : List Bytes}
    (h : s.Tracks e seq pieces taken events)
    (hs : s.client.status e.clientId = .ok .connected)
    (hnone : s.client.pending e.clientId = .ok 0) : taken = pieces := by
  obtain ⟨⟨v, hshows, hinv, -⟩, -, -⟩ := h
  rw [hshows.status_client] at hs
  obtain ⟨gone, left, hsplit, htaken, hqueue, -⟩ := hinv.queue (Except.ok.inj hs)
  have hleft : left = [] := by
    rw [hshows.segments_of_pending hnone] at hqueue
    rw [← List.length_eq_zero_iff, ← length_segmentsOf e.clientPort e.serverPort left, ← hqueue]
    rfl
  rw [hleft, List.append_nil] at hsplit
  rw [← hsplit] at htaken
  exact (htaken.eq_of_length_le hinv.taken_isPrefix.length_le).symm

/-- What the client has accepted when it had nothing pending is read or in the buffer ever after. -/
theorem Begins.isPrefix_of_pending {first rest : List Event} {y : ServerConnection}
    (h : s.Begins e seq) (hone : (first ++ rest).countP (·.connects e.clientId) ≤ 1)
    (hport : ∀ node port, Event.connect e.clientId node port ∈ first ++ rest → port = e.serverPort)
    (hroom : seq.toNat + 1 + (s.accepted (first ++ rest)).length < 4294967296)
    (hs : (s.run first).client.status e.clientId = .ok .connected)
    (hnone : (s.run first).client.pending e.clientId = .ok 0)
    (hy : (s.run (first ++ rest)).server.sockets.socket? e.serverId = some ⟨e.serverPort, y⟩) :
    s.accepted first <+: (s.run (first ++ rest)).returned ++ y.buffer := by
  have hmax := h.maxSegment
  have hseq := toNat_seq_add_one hroom
  rw [accepted_append, List.length_append] at hroom
  obtain ⟨pieces, taken, hpieces, -, hbefore⟩ := Tracks.run first rest
    (h.tracks hone hport) hmax (by rw [List.flatten_nil, List.nil_append]; omega)
  rw [List.flatten_nil, List.nil_append] at hpieces
  obtain rfl := hbefore.taken_of_pending hs hnone
  obtain ⟨pieces', taken', -, ⟨more, rfl⟩, hlast⟩ := Tracks.run rest []
    (by rwa [List.append_nil]) hmax (by rw [hpieces, List.length_append]; omega)
  rw [run_append] at hy ⊢
  rw [(hlast.received hy).1, List.flatten_append, hpieces]
  exact List.prefix_append _ _

/-- **Which calls return bytes, and which bytes these are**, after any events.  A call that waits
returns the first bytes of the buffer as soon as they are there, whatever has become of the
connection.  A call that begins on a connection returns them at once if they are there.  A call that
begins when there is no connection any more returns no bytes.  As long as the client connects once
and the numbers do not wrap around, the bytes in the buffer are the next ones of the stream, and
none are missing of those that the client has accepted when it had nothing pending. -/
theorem late_reads (h : s.Begins e seq) (events : List Event) :
    ∃ y, (s.run events).server.sockets.socket? e.serverId = some ⟨e.serverPort, y⟩ ∧
      (∀ place length,
        (s.run events).serverCalls[place]? = some (.receive e.serverId length) →
        length ≤ y.buffer.length →
        (s.run events).Reads e y length (s.run (events ++ [.poll place]))) ∧
      (y.status = .connected → ∀ length, length ≤ y.buffer.length →
        (s.run events).Reads e y length (s.run (events ++
          [.receive e.serverId length, .poll (s.run events).serverCalls.length]))) ∧
      (y.status ≠ .connected → ∀ length, length ≤ e.serverSettings.receiveCapacity →
        s.run (events ++ [.receive e.serverId length]) =
          { s.run events with
            serverLog := .error (.invalidState e.serverId y.status .connected) ::
              (s.run events).serverLog }) ∧
      (events.countP (·.connects e.clientId) ≤ 1 →
        (∀ node port, Event.connect e.clientId node port ∈ events → port = e.serverPort) →
        seq.toNat + 1 + (s.accepted events).length < 4294967296 →
        (∀ length, length ≤ y.buffer.length → y.buffer.take length =
          ((s.accepted events).drop (s.run events).returned.length).take length) ∧
        ∀ first rest, events = first ++ rest →
          (s.run first).client.status e.clientId = .ok .connected →
          (s.run first).client.pending e.clientId = .ok 0 →
          s.accepted first <+: (s.run events).returned ++ y.buffer) := by
  obtain ⟨v, hv, hbuffer⟩ := h.length_buffer_le events
  have hserver := (Tracks.socket?_eq hv.shows).2
  refine ⟨v.server, hserver, ?_, ?_, ?_, ?_⟩
  · intro place length hcall hle
    rw [run_snoc]
    exact hv.shows.reads_poll hcall hle
  · intro hs length hle
    rw [run_append]
    exact hv.shows.reads_receive hs hbuffer hle
  · intro hs length hle
    rw [run_snoc]
    exact hv.shows.step_receive_of_ne hs hle
  · intro hone hport hroom
    constructor
    · intro length hle
      obtain ⟨pieces, taken, hpieces, hlast⟩ := h.run hone hport hroom
      obtain ⟨_, -, hinv, -⟩ := hlast.scene
      obtain ⟨more, rfl⟩ := hinv.taken_isPrefix
      rw [← hpieces, List.flatten_append, ← (hlast.received hserver).1, List.append_assoc,
        List.drop_left, List.take_append_of_le_length hle]
    · rintro first rest rfl hs hnone
      exact h.isPrefix_of_pending hone hport hroom hs hnone hserver

/-! ### Two short runs -/

/-- The client connects, the server accepts it and gets two of three bytes. -/
def openingRun : List Event :=
  promptRun ++ [.advance 0, .poll 0, .send 0 [1, 2, 3], .toServer .delivered]

/-- The server gets the last byte, the client gets the acknowledgments and disconnects, and the
server hears of this. -/
def endingRun : List Event :=
  [.toServer .delivered, .toClient .delivered, .toClient .delivered, .disconnect 0, .advance 0,
    .toServer .delivered]

/-- A run in which a call begins to wait before the client disconnects. -/
def waitingRun : List Event :=
  openingRun ++ .receive 0 3 :: endingRun

/-- A run in which no call waits when the client disconnects. -/
def idleRun : List Event :=
  openingRun ++ endingRun

theorem port_waitingRun (node : NodeId) (port : UInt32)
    (h : Event.connect 0 node port ∈ waitingRun) : port = 9 := by
  simp [waitingRun, openingRun, promptRun, endingRun] at h
  exact h.2

/-- The call that waits returns all bytes of the stream, although the client has left by then. -/
theorem late_reads_waitingRun :
    ((sampleStart.run waitingRun).server.sockets.socket? 0).map (·.state.status) =
        some .closeWait ∧
      (sampleStart.run (waitingRun ++ [.poll 0])).serverLog =
        [.ok (.received [1, 2, 3]), .ok (.accepted 1 7)] := by
  have hstatus : ((sampleStart.run waitingRun).server.sockets.socket? 0).map
      (fun socket => (socket.state.status, socket.state.buffer.length)) =
        some (.closeWait, 3) := by decide +kernel
  have hcall : (sampleStart.run waitingRun).serverCalls[0]? = some (.receive 0 3) := by
    decide +kernel
  have haccepted : sampleStart.accepted waitingRun = [1, 2, 3] := by decide +kernel
  have hreturned : (sampleStart.run waitingRun).returned = [] := by decide +kernel
  have hlog : (sampleStart.run waitingRun).serverLog = [.ok (.accepted 1 7)] := by decide +kernel
  obtain ⟨y, hy, hwaits, -, -, hstream⟩ := late_reads begins_sampleStart waitingRun
  rw [show (sampleStart.run waitingRun).server.sockets.socket? 0 = _ from hy] at hstatus ⊢
  obtain ⟨hleft, hlength⟩ := Prod.mk.inj (Option.some.inj hstatus)
  have hle : 3 ≤ y.buffer.length := Nat.le_of_eq hlength.symm
  obtain ⟨hnext, -⟩ := hstream (by decide) port_waitingRun (by rw [haccepted]; decide)
  have hread := (hwaits 0 3 hcall hle).log_eq
  rw [hnext 3 hle, haccepted, hreturned, hlog] at hread
  exact ⟨congrArg some hleft, hread⟩

/-- **Bytes that are never read.**  The server has accepted the client, and has taken all bytes; the
client had nothing pending when it disconnected.  A call that begins after this was heard returns
no bytes, although all of them are in the buffer. -/
theorem unread_after_fin :
    sampleStart.Begins sampleEnds 41 ∧
      (sampleStart.run (openingRun ++ endingRun.take 3)).client.pending 0 = .ok 0 ∧
      ((sampleStart.run idleRun).server.sockets.socket? 0).map (·.state.buffer) =
        some [1, 2, 3] ∧
      (sampleStart.run idleRun).serverLog = [.ok (.accepted 1 7)] ∧
      (sampleStart.run (idleRun ++ [.receive 0 3])).serverLog =
        [.error (.invalidState 0 .closeWait .connected), .ok (.accepted 1 7)] := by
  refine ⟨begins_sampleStart, ?_, ?_, ?_, ?_⟩ <;> decide +kernel

end Session

end OverlayStack.Transport
