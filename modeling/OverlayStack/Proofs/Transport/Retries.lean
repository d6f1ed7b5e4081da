import OverlayStack.Proofs.Transport.Disconnection
import OverlayStack.Proofs.Transport.Stranding

/-!
# Requests that are sent again

A call that waits for an answer sends its request again and again, always the same one, until it is
answered or the attempts are used up.  It may be woken at any time, early, late, or more often than
it needs; segments, timers, other sockets and the link go their own ways meanwhile.  What the call
returns is decided when it is woken, by the state of its socket, by the attempts that were made, by
the time since the last one, and by what the link says to the next one.

Calls to connect and to disconnect are treated as one, with the differences as parameters.

## Main definitions

* `HandshakeKind.answer`, `HandshakeKind.request` — what the two kinds of calls wait for and send.
* `Attempt`, `Awaited.attempts` — the requests that a call has sent.
* `Client.Befalls` — what happens to the connection of a socket on which no other call is made.
* `Client.Wakes` — what becomes of a call that is woken.
* `Awaited.Counts` — the invariant of a call that waits.

## Main results

* `Client.wakes_advanceFrom` — a call that is woken makes some attempts, and waits or returns.
* `Awaited.Counts.step`, `Awaited.Counts.run` — the invariant is kept.
* `Client.handshake_returns` — what is sent, and what is returned when.
-/

namespace OverlayStack.Transport

/-! ### The two kinds of calls -/

namespace HandshakeKind

/-- The answer that a call waits for. -/
def answer : HandshakeKind → SegmentKind
  | connect => .synAck
  | disconnect => .finAck

/-- The state of the socket when the answer has arrived. -/
def answered : HandshakeKind → Status
  | connect => .connected
  | disconnect => .closed

/-- The request of a call, from one port to another, with a number of the stream. -/
def request : HandshakeKind → UInt32 → UInt32 → UInt32 → Segment
  | connect => Segment.synOf
  | disconnect => Segment.finOf

/-- What a call returns when its attempts are used up. -/
def timeoutError (settings : Settings) (id : SocketId) (node : NodeId) (port : UInt32) :
    HandshakeKind → Error
  | connect => .connectTimeout id settings.synAttempts node port
  | disconnect => .disconnectTimeout id settings.finAttempts

theorem answered_ne_waitingStatus (kind kind' : HandshakeKind) :
    kind.answered ≠ kind'.waitingStatus := by
  cases kind <;> cases kind' <;> decide

theorem waitingStatus_inj {kind kind' : HandshakeKind}
    (h : kind.waitingStatus = kind'.waitingStatus) : kind = kind' := by
  cases kind <;> cases kind' <;> first | rfl | cases h

theorem closed_ne_waitingStatus (kind : HandshakeKind) : Status.closed ≠ kind.waitingStatus := by
  cases kind <;> decide

end HandshakeKind

/-! ### What happens to a socket -/

namespace Client

variable {c : Client} {id : SocketId} {s : Socket ClientConnection} {o : Occurrence}

/-- What happens is no call on a socket. -/
def Occurrence.Elsewhere (id : SocketId) : Occurrence → Prop
  | .send j _ _ _ => j ≠ id
  | o => o.Spares id

/-- What becomes of the connection of a socket when something happens that is no call on it. -/
inductive Befalls (c : Client) (id : SocketId) (s : Socket ClientConnection) (o : Occurrence) :
    ClientConnection → Prop where
  /-- At most its buffer and its timers change. -/
  | stays {x : ClientConnection} (hstatus : x.status = s.state.status)
      (hseq : x.nextSeq = s.state.nextSeq) : Befalls c id s o x
  /-- The answer that it waits for arrives. -/
  | answered {kind : HandshakeKind} {g : Segment} {now : Nat} {refuse : Refusal Error}
      (ho : o = .handle g now refuse) (hfound : c.lookup g = some (id, s))
      (hs : s.state.status = kind.waitingStatus) (hk : g.kind = kind.answer) :
      Befalls c id s o { s.state with status := kind.answered }
  /-- The link is lost. -/
  | lost (ho : o = .linkLost) : Befalls c id s o s.state.ended

theorem socket?_set_self (hs : c.sockets.socket? id = some s) (x : ClientConnection) :
    (c.set id x).sockets.socket? id = some { s with state := x } := by
  rw [set, SocketTable.socket?_set, if_pos rfl, hs]
  rfl

theorem socket?_set_of_ne (hs : c.sockets.socket? id = some s) {j : SocketId} (hj : j ≠ id)
    (x : ClientConnection) : (c.set j x).sockets.socket? id = some s := by
  rw [set, SocketTable.socket?_set, if_neg hj.symm]
  exact hs

/-- A change of some socket that keeps the state of the connection and the next number. -/
theorem exists_befalls_set {j : SocketId} {s' : Socket ClientConnection} {x : ClientConnection}
    (hs : c.sockets.socket? id = some s) (hj : c.sockets.socket? j = some s')
    (hstatus : x.status = s'.state.status) (hseq : x.nextSeq = s'.state.nextSeq) :
    ∃ y, (c.set j x).sockets.socket? id = some { s with state := y } ∧ c.Befalls id s o y := by
  by_cases hid : j = id
  · subst hid
    obtain rfl := Option.some.inj (hj.symm.trans hs)
    exact ⟨x, socket?_set_self hs x, .stays hstatus hseq⟩
  · exact ⟨s.state, socket?_set_of_ne hs hid x, .stays rfl rfl⟩

/-- A segment that arrives. -/
theorem befalls_handle (hs : c.sockets.socket? id = some s) (g : Segment) (now : Nat)
    (refuse : Refusal Error) :
    ∃ y, (c.handle g now refuse).state.sockets.socket? id = some { s with state := y } ∧
      c.Befalls id s (.handle g now refuse) y := by
  have hstays : ∃ y, c.sockets.socket? id = some { s with state := y } ∧
      c.Befalls id s (.handle g now refuse) y := ⟨s.state, hs, .stays rfl rfl⟩
  unfold handle
  cases hfound : c.lookup g with
  | none => exact hstays
  | some found =>
    obtain ⟨j, s'⟩ := found
    obtain ⟨hj, -⟩ := socket?_of_lookup hfound
    -- the answer to a request is for this socket or for another one
    have hanswer : ∀ kind : HandshakeKind, s'.state.status = kind.waitingStatus →
        g.kind = kind.answer →
        ∃ y, (c.set j { s'.state with status := kind.answered }).sockets.socket? id =
            some { s with state := y } ∧ c.Befalls id s (.handle g now refuse) y := by
      intro kind hwaits hk
      by_cases hid : j = id
      · subst hid
        obtain rfl := Option.some.inj (hj.symm.trans hs)
        exact ⟨_, socket?_set_self hs _, .answered rfl hfound hwaits hk⟩
      · exact ⟨s.state, socket?_set_of_ne hs hid _, .stays rfl rfl⟩
    dsimp only
    split
    · next hsyn hk => exact hanswer .connect hsyn hk
    · next hfin hk => exact hanswer .disconnect hfin hk
    · split
      · exact exists_befalls_set hs hj rfl rfl
      · exact exists_befalls_set hs hj rfl rfl
    · exact hstays
    · exact hstays
    · exact hstays

/-- **What happens to a socket** on which no call is made. -/
theorem befalls_after (hs : c.sockets.socket? id = some s) (ho : o.Elsewhere id) :
    ∃ y, (c.after o).sockets.socket? id = some { s with state := y } ∧ c.Befalls id s o y := by
  have hstays : ∃ y, c.sockets.socket? id = some { s with state := y } ∧ c.Befalls id s o y :=
    ⟨s.state, hs, .stays rfl rfl⟩
  have hother : ∀ {j : SocketId}, j ≠ id → ∀ x, ∃ y,
      (c.set j x).sockets.socket? id = some { s with state := y } ∧ c.Befalls id s o y :=
    fun hj x => ⟨s.state, socket?_set_of_ne hs hj x, .stays rfl rfl⟩
  cases o with
  | wake now refuse => exact hstays
  | handle g now refuse => exact befalls_handle hs g now refuse
  | linkLost =>
    refine ⟨s.state.ended, ?_, .lost rfl⟩
    rw [after, linkLost, SocketTable.socket?_map, hs]
    rfl
  | timer j now refuse =>
    rw [after, pollTimer]
    split
    · exact hstays
    · next s' hj =>
      split
      · exact hstays
      · split
        · exact exists_befalls_set hs hj rfl rfl
        · split
          · exact exists_befalls_set hs hj rfl rfl
          · exact hstays
  | send j data now refuse =>
    rw [after, send]
    split
    · exact hstays
    · split
      · exact hother ho _
      · exact hstays
  | openSocket port =>
    rw [after]
    cases hopen : c.openSocket port with
    | error e => exact hstays
    | ok opened =>
      obtain ⟨j, c'⟩ := opened
      obtain ⟨sockets, htable, rfl⟩ := openSocket_eq_ok hopen
      exact ⟨s.state, SocketTable.socket?_openSocket htable hs, .stays rfl rfl⟩
  | close j =>
    rw [after]
    cases hclose : c.close j with
    | error e => exact hstays
    | ok c' =>
      refine ⟨s.state, ?_, .stays rfl rfl⟩
      show c'.sockets.socket? id = _
      rw [close_eq_ok hclose, SocketTable.close, SocketTable.socket?, List.getElem?_set_ne ho]
      exact hs
  | connect j node port =>
    rw [after, connect]
    cases c.sockets.require j with
    | error e => exact hstays
    | ok s' =>
      simp only [bind, Except.bind]
      split
      · exact hother ho _
      · exact hstays
  | disconnect j =>
    rw [after, disconnect]
    cases c.sockets.require j with
    | error e => exact hstays
    | ok s' =>
      simp only [bind, Except.bind]
      split
      · exact hother ho _
      · exact hstays
  | advance call now refuse =>
    rcases c.client_advanceFrom call now 0 refuse with heq | ⟨x, heq⟩
    · rw [after, advance, heq]
      exact hstays
    · rw [after, advance, heq]
      exact hother ho x

/-- A socket that has the answer, or has lost its connection, keeps it so without a lost link. -/
theorem Befalls.answered_of_ne {kind : HandshakeKind} {x : ClientConnection}
    (h : c.Befalls id s o x) (hs : s.state.status = kind.answered) (ho : o ≠ .linkLost) :
    x.status = kind.answered := by
  cases h with
  | stays hstatus => exact hstatus.trans hs
  | answered _ _ hwaits =>
    exact absurd (hs.symm.trans hwaits) (HandshakeKind.answered_ne_waitingStatus _ _)
  | lost hlost => exact absurd hlost ho

/-- A socket that does not wait for an answer does not begin to. -/
theorem Befalls.ne_waitingStatus {kind : HandshakeKind} {x : ClientConnection}
    (h : c.Befalls id s o x) (hs : s.state.status ≠ kind.waitingStatus) :
    x.status ≠ kind.waitingStatus := by
  cases h with
  | stays hstatus => rwa [hstatus]
  | answered => exact HandshakeKind.answered_ne_waitingStatus _ _
  | lost => exact kind.closed_ne_waitingStatus

theorem Befalls.nextSeq_eq {x : ClientConnection} (h : c.Befalls id s o x) :
    x.nextSeq = s.state.nextSeq := by
  cases h with
  | stays _ hseq => exact hseq
  | answered => rfl
  | lost => rfl

end Client

/-! ### Attempts -/

/-- A request that was sent. -/
structure Attempt where
  time : Nat
  node : NodeId
  request : Segment

/-- The last of some attempts has not been answered for a given time. -/
def Attempt.Overdue (made : List Attempt) (timeout now : Nat) : Prop :=
  ∃ last ∈ made.getLast?, timeout ≤ now - last.time

namespace Handshake

/-- It is time for the next attempt of a call, or to give up. -/
def IsDue (call : Handshake) (settings : Settings) (now : Nat) : Prop :=
  call.attempts = 0 ∨ call.kind.timeout settings ≤ now - call.lastSent

/-- The call after some attempts at one time. -/
def tried (call : Handshake) (n now : Nat) : Handshake :=
  { call with
    attempts := call.attempts + n
    lastSent := if n = 0 then call.lastSent else now }

theorem tried_succ (call : Handshake) (n now : Nat) :
    Handshake.tried { call with attempts := call.attempts + 1, lastSent := now } n now =
      call.tried (n + 1) now := by
  rw [tried, tried]
  congr 1
  · exact Nat.add_right_comm ..
  · exact ite_self now

/-- Where a call has got to when it has made some attempts. -/
def After (call : Handshake) (made : List Attempt) (later : Handshake) : Prop :=
  ∃ last, later = { call with attempts := made.length, lastSent := last } ∧
    ∀ a ∈ made.getLast?, a.time = last

variable {call later : Handshake} {made : List Attempt}

theorem After.attempts_eq (h : call.After made later) : later.attempts = made.length := by
  obtain ⟨last, rfl, -⟩ := h
  rfl

theorem After.socket_eq (h : call.After made later) : later.socket = call.socket := by
  obtain ⟨last, rfl, -⟩ := h
  rfl

theorem After.kind_eq (h : call.After made later) : later.kind = call.kind := by
  obtain ⟨last, rfl, -⟩ := h
  rfl

theorem After.node_eq (h : call.After made later) : later.node = call.node := by
  obtain ⟨last, rfl, -⟩ := h
  rfl

theorem After.request_eq (h : call.After made later) : later.request = call.request := by
  obtain ⟨last, rfl, -⟩ := h
  rfl

/-- A call that has made some attempts, and makes more. -/
theorem After.tried (h : call.After made later) (n now : Nat) :
    call.After (made ++ List.replicate n ⟨now, call.node, call.request⟩) (later.tried n now) := by
  obtain ⟨last, rfl, hlast⟩ := h
  refine ⟨if n = 0 then last else now, ?_, fun a ha => ?_⟩
  · rw [Handshake.tried, List.length_append, List.length_replicate]
  · cases n with
    | zero =>
      rw [List.replicate_zero, List.append_nil] at ha
      exact hlast a ha
    | succ n =>
      rw [List.replicate_succ', ← List.append_assoc, List.getLast?_append] at ha
      obtain rfl := Option.some.inj ha
      rfl

/-- A call is due exactly if it has made no attempt or the last one is overdue. -/
theorem After.isDue_iff (h : call.After made later) (settings : Settings) (now : Nat) :
    later.IsDue settings now ↔
      made = [] ∨ Attempt.Overdue made (call.kind.timeout settings) now := by
  obtain ⟨last, rfl, hlast⟩ := h
  rw [IsDue, List.length_eq_zero_iff]
  cases hmade : made.getLast? with
  | none =>
    rw [List.getLast?_eq_none_iff] at hmade
    simp only [hmade, true_or]
  | some a =>
    rw [Attempt.Overdue, hmade, ← hlast a hmade]
    simp

end Handshake

/-! ### Calls that are woken -/

namespace Client

variable {c : Client} {call : Handshake}

/-- What becomes of a client and a call that is woken, when no further attempt is made. -/
inductive Wakes (c : Client) (call : Handshake) (now : Nat) (refuse : Refusal Error) (n : Nat) :
    Client → HandshakeState → Prop where
  /-- The call goes on to wait. -/
  | waits (hs : (c.connectionOf call).status = call.kind.waitingStatus)
      (hdue : ¬ call.IsDue c.settings now) : Wakes c call now refuse n c (.waiting call)
  /-- The attempts are used up. -/
  | timedOut (hs : (c.connectionOf call).status = call.kind.waitingStatus)
      (hdue : call.IsDue c.settings now) (hall : call.attempts = call.kind.maxAttempts c.settings) :
      Wakes c call now refuse n (c.finish call true).1 (.finished (.error
        (call.kind.timeoutError c.settings call.socket call.node call.request.destPort)))
  /-- The link refuses the next request. -/
  | refused (hs : (c.connectionOf call).status = call.kind.waitingStatus)
      (hdue : call.IsDue c.settings now) (hmore : call.attempts < call.kind.maxAttempts c.settings)
      {e : Error} (hrefuse : refuse n call.request = some e) :
      Wakes c call now refuse n (c.finish call true).1 (.finished (.error e))
  /-- The socket does not wait any more. -/
  | released (hs : (c.connectionOf call).status ≠ call.kind.waitingStatus) :
      Wakes c call now refuse n (c.finish call false).1 (.finished (c.finish call false).2)

theorem finish_timedOut (c : Client) (h : call.attempts = call.kind.maxAttempts c.settings) :
    (c.finish call true).2 = .error
      (call.kind.timeoutError c.settings call.socket call.node call.request.destPort) := by
  unfold finish
  cases hk : call.kind with
  | connect => rw [h, hk]; rfl
  | disconnect => rw [h, hk]; rfl

theorem refused_eq_finish (c : Client) (call : Handshake) :
    c.refused call = (c.finish call true).1 := by
  unfold refused finish
  cases call.kind <;> rfl

/-- **A call that is woken** makes some attempts, and waits or returns. -/
theorem wakes_advanceFrom (c : Client) (call : Handshake) (now n : Nat) (refuse : Refusal Error)
    (hle : call.attempts ≤ call.kind.maxAttempts c.settings) :
    ∃ k, (c.advanceFrom call now refuse n).sent = List.replicate k (call.node, call.request) ∧
      call.attempts + k ≤ call.kind.maxAttempts c.settings ∧
      c.Wakes (call.tried k now) now refuse (n + k) (c.advanceFrom call now refuse n).client
        (c.advanceFrom call now refuse n).state := by
  induction call, n using advanceFrom.induct c now refuse with
  | case1 call n hw htime hmax c' result hend =>
    have hall := Nat.le_antisymm hle hmax
    rw [advanceFrom, if_pos hw, if_pos htime, dif_pos hmax]
    refine ⟨0, rfl, hle, ?_⟩
    dsimp only
    rw [finish_timedOut c hall]
    exact .timedOut hw htime hall
  | case2 call n hw htime hmax e hrefuse =>
    rw [advanceFrom, if_pos hw, if_pos htime, dif_neg hmax, hrefuse]
    refine ⟨0, rfl, hle, ?_⟩
    dsimp only
    rw [refused_eq_finish]
    exact .refused hw htime (Nat.not_le.1 hmax) hrefuse
  | case3 call n hw htime hmax hrefuse ih =>
    -- the call goes on with one attempt more
    obtain ⟨k, hsent, hle, hwakes⟩ := ih (Nat.not_le.1 hmax)
    rw [advanceFrom, if_pos hw, if_pos htime, dif_neg hmax, hrefuse]
    refine ⟨k + 1, ?_, ?_, ?_⟩
    · dsimp only
      rw [hsent, List.replicate_succ]
    · rw [← Nat.add_assoc, Nat.add_right_comm]
      exact hle
    · rw [Handshake.tried_succ, Nat.add_right_comm] at hwakes
      exact hwakes
  | case4 call n hw htime =>
    rw [advanceFrom, if_pos hw, if_neg htime]
    exact ⟨0, rfl, hle, .waits hw htime⟩
  | case5 call n hw c' result hend =>
    rw [advanceFrom, if_neg hw]
    exact ⟨0, rfl, hle, .released hw⟩

/-- A call that returns changes at most its own socket, and not the next number. -/
theorem socket?_finish {s : Socket ClientConnection} (hs : c.sockets.socket? call.socket = some s)
    (timedOut : Bool) :
    ∃ x, (c.finish call timedOut).1.sockets.socket? call.socket = some { s with state := x } ∧
      x.nextSeq = s.state.nextSeq ∧
      (x.status = .closed ∧ (timedOut = true ∨ call.kind = .disconnect) ∨
        x.status = s.state.status ∧ timedOut = false) := by
  have hx : c.connectionOf call = s.state := by
    rw [connectionOf, hs]
    rfl
  unfold finish
  rw [hx]
  cases hk : call.kind with
  | connect =>
    dsimp only
    cases timedOut with
    | true => exact ⟨_, socket?_set_self hs _, rfl, .inl ⟨rfl, .inl rfl⟩⟩
    | false =>
      rw [if_neg Bool.false_ne_true]
      split <;> exact ⟨s.state, hs, rfl, .inr ⟨rfl, rfl⟩⟩
  | disconnect => exact ⟨_, socket?_set_self hs _, rfl, .inl ⟨rfl, .inr rfl⟩⟩

/-- A socket without a connection can be connected. -/
theorem exists_connect {id : SocketId} (h : c.statusAt id = some .closed) (node : NodeId)
    (port : UInt32) : ∃ begun, c.connect id node port = .ok begun := by
  obtain ⟨s, hs, hclosed⟩ := statusAt_eq_some_iff.1 h
  rw [connect, require_eq hs]
  exact ⟨_, if_pos hclosed⟩

/-- Calls that return do not change settings. -/
theorem settings_finish (c : Client) (call : Handshake) (timedOut : Bool) :
    (c.finish call timedOut).1.settings = c.settings := by
  unfold finish
  cases call.kind with
  | connect =>
    dsimp only
    split
    · rfl
    · split <;> rfl
  | disconnect => rfl

/-- A call to connect that was not given up returns what the state of its socket says. -/
theorem finish_of_not_timedOut (c : Client) (call : Handshake) :
    (c.finish call false).2 =
      if call.kind = .disconnect ∨ (c.connectionOf call).status = .connected then .ok ()
      else .error (.connectionLost call.socket (c.connectionOf call).status) := by
  unfold finish
  cases call.kind with
  | connect =>
    dsimp only
    rw [if_neg Bool.false_ne_true]
    split <;> simp [*]
  | disconnect => rfl

end Client

/-! ### Runs -/

namespace Awaited

variable {w : Awaited} {call : Handshake} {settings : Settings} {seq : UInt32}
  {happened rest : List Client.Occurrence} {o : Client.Occurrence}

/-- What the call sends when something happens. -/
def attemptsAt (w : Awaited) (o : Client.Occurrence) : List Attempt :=
  match o, w.state with
  | .wake now refuse, .waiting call =>
    (w.client.advance call now refuse).sent.map fun (node, g) => ⟨now, node, g⟩
  | _, _ => []

/-- What the call sends while several things happen. -/
def attempts (w : Awaited) : List Client.Occurrence → List Attempt
  | [] => []
  | o :: happened => w.attemptsAt o ++ (w.step o).attempts happened

theorem attempts_concat (w : Awaited) (happened : List Client.Occurrence) (o : Client.Occurrence) :
    w.attempts (happened ++ [o]) = w.attempts happened ++ (w.run happened).attemptsAt o := by
  induction happened generalizing w with
  | nil => exact List.append_nil _
  | cons o' happened ih =>
    rw [List.cons_append, attempts, attempts, ih, List.append_assoc]
    rfl

/-- The call only sends when it is woken. -/
theorem attemptsAt_of_ne (w : Awaited) (h : ∀ now refuse, o ≠ .wake now refuse) :
    w.attemptsAt o = [] := by
  cases o with
  | wake now refuse => exact absurd rfl (h now refuse)
  | _ => rfl

theorem attemptsAt_of_finished {result : Except Error Unit} (h : w.state = .finished result) :
    w.attemptsAt o = [] := by
  unfold attemptsAt
  rw [h]
  cases o <;> rfl

theorem attemptsAt_wake {later : Handshake} (h : w.state = .waiting later) (now : Nat)
    (refuse : Refusal Error) :
    w.attemptsAt (.wake now refuse) =
      (w.client.advance later now refuse).sent.map fun (node, g) => ⟨now, node, g⟩ := by
  unfold attemptsAt
  rw [h]

theorem step_wake {later : Handshake} (h : w.state = .waiting later) (now : Nat)
    (refuse : Refusal Error) :
    w.step (.wake now refuse) =
      ⟨(w.client.advance later now refuse).client, (w.client.advance later now refuse).state⟩ := by
  unfold step
  rw [h]

/-- What is not a wake-up only concerns the client. -/
theorem run_concat_of_ne (w : Awaited) (happened : List Client.Occurrence)
    (h : ∀ now refuse, o ≠ .wake now refuse) :
    w.run (happened ++ [o]) = ⟨(w.run happened).client.after o, (w.run happened).state⟩ := by
  rw [run_concat, ← step_of_ne _ _ h]

/-- A call that has returned cannot be woken. -/
theorem run_wake_of_finished {result : Except Error Unit}
    (h : (w.run happened).state = .finished result) (now : Nat) (refuse : Refusal Error) :
    w.run (happened ++ [.wake now refuse]) = w.run happened := by
  have hrun : w.run happened = ⟨(w.run happened).client, .finished result⟩ := by rw [← h]
  rw [run_concat, hrun, step_of_finished]
  rfl

/-- The answer to the request of a call has arrived while its socket was waiting for it, and some
more has happened since. -/
def Answered (w : Awaited) (call : Handshake) (happened rest : List Client.Occurrence) : Prop :=
  ∃ first g now refuse s, happened = first ++ .handle g now refuse :: rest ∧
    (w.run first).client.lookup g = some (call.socket, s) ∧
    s.state.status = call.kind.waitingStatus ∧ g.kind = call.kind.answer

theorem Answered.concat (h : w.Answered call happened rest) (o : Client.Occurrence) :
    w.Answered call (happened ++ [o]) (rest ++ [o]) := by
  obtain ⟨first, g, now, refuse, s, rfl, hfound⟩ := h
  exact ⟨first, g, now, refuse, s, by simp, hfound⟩

/-- Why the socket of a call is in its state: it waits for the answer, it has got it, or it has lost
the link. -/
inductive Explained (w : Awaited) (call : Handshake) (happened : List Client.Occurrence) :
    Status → Prop where
  | waits : Explained w call happened call.kind.waitingStatus
  | answered (rest : List Client.Occurrence) (h : w.Answered call happened rest) :
      Explained w call happened call.kind.answered
  | lost (hlost : .linkLost ∈ happened) : Explained w call happened .closed

theorem Explained.concat {status : Status} (h : w.Explained call happened status)
    (o : Client.Occurrence) : w.Explained call (happened ++ [o]) status := by
  cases h with
  | waits => exact .waits
  | answered rest h => exact .answered _ (h.concat o)
  | lost hlost => exact .lost (List.mem_append_left _ hlost)

/-- What holds while a call waits, and after it, if no other call is made on its socket: the socket
keeps its next number; the call has made some attempts, and not too many; and while it waits, it
counts them, and its socket is in a state that can be explained. -/
structure Counts (w : Awaited) (call : Handshake) (settings : Settings) (seq : UInt32)
    (happened : List Client.Occurrence) : Prop where
  settings_eq : (w.run happened).client.settings = settings
  same : ∀ a ∈ w.attempts happened, a.node = call.node ∧ a.request = call.request
  length_le : (w.attempts happened).length ≤ call.kind.maxAttempts settings
  after : ∀ later, (w.run happened).state = .waiting later →
    call.After (w.attempts happened) later
  socket : ∃ s, (w.run happened).client.sockets.socket? call.socket = some s ∧
    s.state.nextSeq = seq ∧
    ∀ later, (w.run happened).state = .waiting later → w.Explained call happened s.state.status

namespace Counts

variable {later : Handshake} {now : Nat} {refuse : Refusal Error}

/-- **A call that is woken** while it waits. -/
theorem wakes (h : w.Counts call settings seq happened)
    (hwaits : (w.run happened).state = .waiting later) (now : Nat) (refuse : Refusal Error) :
    ∃ k later', w.attempts (happened ++ [.wake now refuse]) =
        w.attempts happened ++ List.replicate k ⟨now, call.node, call.request⟩ ∧
      (w.attempts (happened ++ [.wake now refuse])).length ≤ call.kind.maxAttempts settings ∧
      call.After (w.attempts (happened ++ [.wake now refuse])) later' ∧
      (w.run happened).client.Wakes later' now refuse k
        (w.run (happened ++ [.wake now refuse])).client
        (w.run (happened ++ [.wake now refuse])).state := by
  have hafter := h.after later hwaits
  have hle : later.attempts ≤ later.kind.maxAttempts (w.run happened).client.settings := by
    rw [h.settings_eq, hafter.attempts_eq, hafter.kind_eq]
    exact h.length_le
  obtain ⟨k, hsent, hle, hwakes⟩ :=
    (w.run happened).client.wakes_advanceFrom later now 0 refuse hle
  rw [Nat.zero_add] at hwakes
  have hmade : w.attempts (happened ++ [.wake now refuse]) =
      w.attempts happened ++ List.replicate k ⟨now, call.node, call.request⟩ := by
    rw [attempts_concat, attemptsAt_wake hwaits, Client.advance, hsent, List.map_replicate,
      hafter.node_eq, hafter.request_eq]
  have hlast : w.run (happened ++ [.wake now refuse]) =
      ⟨((w.run happened).client.advance later now refuse).client,
        ((w.run happened).client.advance later now refuse).state⟩ := by
    rw [run_concat, step_wake hwaits]
  refine ⟨k, later.tried k now, hmade, ?_, ?_, ?_⟩
  · rw [hmade, List.length_append, List.length_replicate, ← hafter.attempts_eq, ← hafter.kind_eq,
      ← h.settings_eq]
    exact hle
  · rw [hmade]
    exact hafter.tried k now
  · rw [hlast]
    exact hwakes

/-- The state of the socket of a call that has got somewhere. -/
theorem status_connectionOf {c : Client} {made : List Attempt} (hafter : call.After made later)
    {s : Socket ClientConnection} (hs : c.sockets.socket? call.socket = some s) :
    (c.connectionOf later).status = s.state.status := by
  rw [Client.connectionOf, hafter.socket_eq, hs]
  rfl

/-- The call is woken. -/
theorem wake (h : w.Counts call settings seq happened) (now : Nat) (refuse : Refusal Error) :
    w.Counts call settings seq (happened ++ [.wake now refuse]) := by
  cases hstate : (w.run happened).state with
  | finished result =>
    have hlast := run_wake_of_finished hstate now refuse
    have hmade : w.attempts (happened ++ [.wake now refuse]) = w.attempts happened := by
      rw [attempts_concat, attemptsAt_of_finished hstate, List.append_nil]
    obtain ⟨s, hs, hseq, hwhy⟩ := h.socket
    refine ⟨?_, ?_, ?_, ?_, s, ?_, hseq, fun later hwaits => ?_⟩
    · rw [hlast]; exact h.settings_eq
    · rw [hmade]; exact h.same
    · rw [hmade]; exact h.length_le
    · rw [hlast, hmade]; exact h.after
    · rw [hlast]; exact hs
    · rw [hlast] at hwaits
      exact (hwhy later hwaits).concat _
  | waiting later =>
    obtain ⟨k, later', hmade, hle, hafter, hwakes⟩ := h.wakes hstate now refuse
    have hsame : ∀ a ∈ w.attempts (happened ++ [.wake now refuse]),
        a.node = call.node ∧ a.request = call.request := by
      rw [hmade]
      intro a ha
      rcases List.mem_append.1 ha with ha | ha
      · exact h.same a ha
      · rw [List.eq_of_mem_replicate ha]
        exact ⟨rfl, rfl⟩
    obtain ⟨s, hs, hseq, hwhy⟩ := h.socket
    -- a call that returns leaves the next number alone
    have hreturns : ∀ timedOut result,
        (w.run (happened ++ [.wake now refuse])).client =
          ((w.run happened).client.finish later' timedOut).1 →
        (w.run (happened ++ [.wake now refuse])).state = .finished result →
        w.Counts call settings seq (happened ++ [.wake now refuse]) := by
      intro timedOut result hclient hfinished
      obtain ⟨x, hx, hnext, -⟩ := Client.socket?_finish (hafter.socket_eq ▸ hs) timedOut
      refine ⟨?_, hsame, hle, fun later hwaits => ?_, { s with state := x }, ?_, hnext.trans hseq,
        fun later hwaits => ?_⟩
      · rw [hclient, Client.settings_finish]
        exact h.settings_eq
      · cases hfinished.symm.trans hwaits
      · rw [hclient, ← hafter.socket_eq]
        exact hx
      · cases hfinished.symm.trans hwaits
    generalize hclient : (w.run (happened ++ [.wake now refuse])).client = c at hwakes
    generalize hlast : (w.run (happened ++ [.wake now refuse])).state = state at hwakes
    cases hwakes with
    | waits =>
      refine ⟨hclient ▸ h.settings_eq, hsame, hle, fun later'' hwaits => ?_, s, hclient ▸ hs, hseq,
        fun _ _ => (hwhy later hstate).concat _⟩
      cases hlast.symm.trans hwaits
      exact hafter
    | timedOut => exact hreturns true _ hclient hlast
    | refused => exact hreturns true _ hclient hlast
    | released => exact hreturns false _ hclient hlast

/-- **Something happens** that is no call on the socket. -/
theorem step (h : w.Counts call settings seq happened) (ho : o.Elsewhere call.socket) :
    w.Counts call settings seq (happened ++ [o]) := by
  by_cases hwake : ∃ now refuse, o = .wake now refuse
  · obtain ⟨now, refuse, rfl⟩ := hwake
    exact h.wake now refuse
  · have hne := fun now refuse heq => hwake ⟨now, refuse, heq⟩
    have hlast := w.run_concat_of_ne happened hne
    have hmade : w.attempts (happened ++ [o]) = w.attempts happened := by
      rw [attempts_concat, attemptsAt_of_ne _ hne, List.append_nil]
    obtain ⟨s, hs, hseq, hwhy⟩ := h.socket
    obtain ⟨x, hx, hbefalls⟩ := Client.befalls_after hs ho
    refine ⟨?_, ?_, ?_, ?_, { s with state := x }, ?_, hbefalls.nextSeq_eq.trans hseq,
      fun later hwaits => ?_⟩
    · rw [hlast]
      exact (Client.settings_after o).trans h.settings_eq
    · rw [hmade]; exact h.same
    · rw [hmade]; exact h.length_le
    · rw [hlast, hmade]; exact h.after
    · rw [hlast]; exact hx
    · rw [hlast] at hwaits
      have hbefore := hwhy later hwaits
      cases hbefalls with
      | stays hstatus =>
        rw [← hstatus] at hbefore
        exact hbefore.concat o
      | @answered kind g now refuse heq hfound hwaiting hk =>
        -- only the answer to the call can arrive
        have hkind : call.kind = kind := by
          rw [hwaiting] at hbefore
          generalize hst : kind.waitingStatus = st at hbefore
          cases hbefore with
          | waits => exact HandshakeKind.waitingStatus_inj hst.symm
          | answered => exact absurd hst.symm (HandshakeKind.answered_ne_waitingStatus _ _)
          | lost => exact absurd hst.symm kind.closed_ne_waitingStatus
        subst hkind
        exact .answered [] ⟨happened, g, now, refuse, s, by rw [heq], hfound, hwaiting, hk⟩
      | lost heq => exact .lost (List.mem_append_right _ (List.mem_singleton.2 heq.symm))

/-- **Several things happen.** -/
theorem run (h : w.Counts call settings seq [])
    (helse : ∀ o ∈ happened, o.Elsewhere call.socket) : w.Counts call settings seq happened := by
  induction happened using List.reverseRecOn with
  | nil => exact h
  | append_singleton happened o ih =>
    have hbefore := ih fun o' ho' => helse o' (List.mem_append_left _ ho')
    exact hbefore.step (helse o (List.mem_append_right _ (List.mem_singleton.2 rfl)))

end Counts

/-! ### What a call returns -/

/-- What becomes of a call that is woken, in terms of the attempts that it has made by then. -/
inductive Outcome (w : Awaited) (call : Handshake) (settings : Settings)
    (happened : List Client.Occurrence) (now : Nat) (refuse : Refusal Error)
    (made : List Attempt) : HandshakeState → Prop where
  /-- The call goes on to wait. -/
  | waits {later : Handshake}
      (hasks : (w.run happened).client.statusAt call.socket = some call.kind.waitingStatus)
      (hsome : made ≠ []) (hdue : ¬ Attempt.Overdue made (call.kind.timeout settings) now) :
      Outcome w call settings happened now refuse made (.waiting later)
  /-- The attempts are used up. -/
  | timedOut
      (hasks : (w.run happened).client.statusAt call.socket = some call.kind.waitingStatus)
      (hdue : made = [] ∨ Attempt.Overdue made (call.kind.timeout settings) now)
      (hall : made.length = call.kind.maxAttempts settings) :
      Outcome w call settings happened now refuse made (.finished (.error
        (call.kind.timeoutError settings call.socket call.node call.request.destPort)))
  /-- The link refuses the next request. -/
  | refused
      (hasks : (w.run happened).client.statusAt call.socket = some call.kind.waitingStatus)
      (hdue : made = [] ∨ Attempt.Overdue made (call.kind.timeout settings) now)
      (hmore : made.length < call.kind.maxAttempts settings) {e : Error}
      (hrefuse : refuse (made.length - (w.attempts happened).length) call.request = some e) :
      Outcome w call settings happened now refuse made (.finished (.error e))
  /-- The answer has arrived, or there is nothing left to disconnect. -/
  | succeeded
      (hnot : (w.run happened).client.statusAt call.socket ≠ some call.kind.waitingStatus)
      (hok : call.kind = .disconnect ∨
        (w.run happened).client.statusAt call.socket = some .connected) :
      Outcome w call settings happened now refuse made (.finished (.ok ()))
  /-- The connection is lost. -/
  | lost (hkind : call.kind = .connect)
      (hclosed : (w.run happened).client.statusAt call.socket = some .closed) :
      Outcome w call settings happened now refuse made
        (.finished (.error (.connectionLost call.socket .closed)))

namespace Counts

variable {later : Handshake} {now : Nat} {refuse : Refusal Error}

/-- **What a call returns** when it is woken. -/
theorem outcome (h : w.Counts call settings seq happened)
    (hwaits : (w.run happened).state = .waiting later) (now : Nat) (refuse : Refusal Error) :
    w.Outcome call settings happened now refuse (w.attempts (happened ++ [.wake now refuse]))
      (w.run (happened ++ [.wake now refuse])).state := by
  obtain ⟨k, later', hmade, -, hafter, hwakes⟩ := h.wakes hwaits now refuse
  have hcount : (w.attempts (happened ++ [.wake now refuse])).length -
      (w.attempts happened).length = k := by
    rw [hmade, List.length_append, List.length_replicate, Nat.add_sub_cancel_left]
  have hdue := hafter.isDue_iff settings now
  obtain ⟨s, hs, -, hwhy⟩ := h.socket
  have hat := Client.statusAt_of_socket? hs
  have hstatus := status_connectionOf hafter hs
  have hsettings := h.settings_eq
  generalize w.attempts (happened ++ [.wake now refuse]) = made at *
  have hasks : ((w.run happened).client.connectionOf later').status = later'.kind.waitingStatus →
      (w.run happened).client.statusAt call.socket = some call.kind.waitingStatus := by
    intro hwait
    rw [hat, ← hstatus, hwait, hafter.kind_eq]
  generalize (w.run (happened ++ [.wake now refuse])).client = c at hwakes
  generalize (w.run (happened ++ [.wake now refuse])).state = state at hwakes ⊢
  cases hwakes with
  | waits hs' hnot =>
    rw [hsettings, hdue, not_or] at hnot
    exact .waits (hasks hs') hnot.1 hnot.2
  | timedOut hs' hdue' hall =>
    rw [hsettings, hdue] at hdue'
    rw [hsettings, hafter.attempts_eq, hafter.kind_eq] at hall
    rw [hsettings, hafter.kind_eq, hafter.socket_eq, hafter.node_eq, hafter.request_eq]
    exact .timedOut (hasks hs') hdue' hall
  | refused hs' hdue' hmore hrefuse =>
    rw [hsettings, hdue] at hdue'
    rw [hsettings, hafter.attempts_eq, hafter.kind_eq] at hmore
    rw [hafter.request_eq] at hrefuse
    exact .refused (hasks hs') hdue' hmore (hcount ▸ hrefuse)
  | released hnot =>
    rw [hstatus, hafter.kind_eq] at hnot
    rw [Client.finish_of_not_timedOut, hstatus, hafter.kind_eq, hafter.socket_eq]
    have hnot' : (w.run happened).client.statusAt call.socket ≠ some call.kind.waitingStatus := by
      rw [hat]
      exact fun heq => hnot (Option.some.inj heq)
    split
    · next hok => exact .succeeded hnot' (hok.imp_right fun hok => hat.trans (congrArg some hok))
    · next hfail =>
      -- a call to connect whose socket neither waits nor is connected
      rw [not_or] at hfail
      have hconnect : call.kind = .connect := by
        cases hk : call.kind with
        | connect => rfl
        | disconnect => exact absurd hk hfail.1
      have hclosed : s.state.status = .closed := by
        have hbefore := hwhy later hwaits
        generalize s.state.status = st at hbefore hnot hfail
        cases hbefore with
        | waits => exact absurd rfl hnot
        | answered => exact absurd (by rw [hconnect]; rfl) hfail.2
        | lost => rfl
      rw [hclosed] at hat ⊢
      exact .lost hconnect hat

/-- **A call times out** exactly if all attempts were made, the last one is overdue, and the socket
still waits. -/
theorem timesOut_iff (h : w.Counts call settings seq happened)
    (hwaits : (w.run happened).state = .waiting later)
    (hmax : 0 < call.kind.maxAttempts settings)
    (hcloses : ∀ n g e, refuse n g = some e → ∃ reason, e = .transportClosed reason) :
    (w.run (happened ++ [.wake now refuse])).state = .finished
        (.error (call.kind.timeoutError settings call.socket call.node call.request.destPort)) ↔
      (w.run happened).client.statusAt call.socket = some call.kind.waitingStatus ∧
      (w.attempts (happened ++ [.wake now refuse])).length = call.kind.maxAttempts settings ∧
      Attempt.Overdue (w.attempts (happened ++ [.wake now refuse])) (call.kind.timeout settings)
        now := by
  have houtcome := h.outcome hwaits now refuse
  generalize w.attempts (happened ++ [.wake now refuse]) = made at houtcome ⊢
  generalize (w.run (happened ++ [.wake now refuse])).state = state at houtcome ⊢
  cases houtcome with
  | waits _ _ hdue => exact ⟨nofun, fun ⟨_, _, hover⟩ => absurd hover hdue⟩
  | timedOut hasks hdue hall =>
    refine iff_of_true rfl ⟨hasks, hall, hdue.resolve_left fun hnil => ?_⟩
    rw [hnil] at hall
    exact hmax.ne hall
  | refused _ _ hmore hrefuse =>
    obtain ⟨reason, rfl⟩ := hcloses _ _ _ hrefuse
    refine iff_of_false (fun heq => ?_) fun ⟨_, hall, _⟩ => hmore.ne hall
    cases hk : call.kind <;> rw [hk] at heq <;> cases heq
  | succeeded hnot => exact iff_of_false nofun fun ⟨hasks, _⟩ => hnot hasks
  | lost hkind hclosed =>
    rw [hkind, hclosed]
    exact iff_of_false nofun nofun

/-- **A call fails with the reason of the link** exactly if the link refuses one of its requests. -/
theorem refused_iff (h : w.Counts call settings seq happened)
    (hwaits : (w.run happened).state = .waiting later) (reason : String) :
    (w.run (happened ++ [.wake now refuse])).state =
        .finished (.error (.transportClosed reason)) ↔
      (w.run happened).client.statusAt call.socket = some call.kind.waitingStatus ∧
      (w.attempts (happened ++ [.wake now refuse])).length < call.kind.maxAttempts settings ∧
      (w.attempts (happened ++ [.wake now refuse]) = [] ∨
        Attempt.Overdue (w.attempts (happened ++ [.wake now refuse])) (call.kind.timeout settings)
          now) ∧
      refuse ((w.attempts (happened ++ [.wake now refuse])).length - (w.attempts happened).length)
        call.request = some (.transportClosed reason) := by
  have houtcome := h.outcome hwaits now refuse
  generalize w.attempts (happened ++ [.wake now refuse]) = made at houtcome ⊢
  generalize (w.run (happened ++ [.wake now refuse])).state = state at houtcome ⊢
  cases houtcome with
  | waits _ hsome hdue =>
    exact ⟨nofun, fun ⟨_, _, hover, _⟩ => absurd (hover.resolve_left hsome) hdue⟩
  | timedOut _ _ hall =>
    refine iff_of_false (fun heq => ?_) fun ⟨_, hmore, _⟩ => hmore.ne hall
    cases hk : call.kind <;> rw [hk] at heq <;> cases heq
  | refused hasks hdue hmore hrefuse =>
    rw [hrefuse, Option.some_inj]
    constructor
    · intro heq
      cases heq
      exact ⟨hasks, hmore, hdue, rfl⟩
    · rintro ⟨-, -, -, rfl⟩
      rfl
  | succeeded hnot => exact iff_of_false nofun fun ⟨hasks, _⟩ => hnot hasks
  | lost hkind hclosed =>
    rw [hkind, hclosed]
    exact iff_of_false nofun nofun

/-! ### Answers -/

/-- The socket of a call that does not wait any more. -/
theorem released_step (h : w.Counts call settings seq happened) (ho : o.Elsewhere call.socket)
    {status : Status} (hs : (w.run happened).client.statusAt call.socket = some status)
    (hnot : status ≠ call.kind.waitingStatus) :
    ∃ status', (w.run (happened ++ [o])).client.statusAt call.socket = some status' ∧
      status' ≠ call.kind.waitingStatus ∧
      (status = call.kind.answered → o ≠ .linkLost → status' = call.kind.answered) := by
  obtain ⟨s, hsocket, rfl⟩ := Client.statusAt_eq_some_iff.1 hs
  by_cases hwake : ∃ now refuse, o = .wake now refuse
  · obtain ⟨now, refuse, rfl⟩ := hwake
    cases hstate : (w.run happened).state with
    | finished result =>
      rw [run_wake_of_finished hstate]
      exact ⟨s.state.status, hs, hnot, fun hsame _ => hsame⟩
    | waiting later =>
      obtain ⟨k, later', -, -, hafter, hwakes⟩ := h.wakes hstate now refuse
      rw [← status_connectionOf hafter hsocket, ← hafter.kind_eq] at hnot
      generalize (w.run (happened ++ [.wake now refuse])).client = c at hwakes ⊢
      generalize (w.run (happened ++ [.wake now refuse])).state = state at hwakes
      cases hwakes with
      | waits hasks => exact absurd hasks hnot
      | timedOut hasks => exact absurd hasks hnot
      | refused hasks => exact absurd hasks hnot
      | released =>
        obtain ⟨x, hx, -, hreturned⟩ :=
          Client.socket?_finish (hafter.socket_eq.symm ▸ hsocket) false
        refine ⟨x.status, Client.statusAt_of_socket? (hafter.socket_eq ▸ hx), ?_⟩
        rw [status_connectionOf hafter hsocket, hafter.kind_eq] at hnot
        rcases hreturned with ⟨hclosed, hkind⟩ | ⟨hsame, -⟩
        · rw [hclosed]
          refine ⟨call.kind.closed_ne_waitingStatus, fun _ _ => ?_⟩
          rw [← hafter.kind_eq, hkind.resolve_left Bool.false_ne_true]
          rfl
        · rw [hsame]
          exact ⟨hnot, fun hanswered _ => hanswered⟩
  · have hne := fun now refuse heq => hwake ⟨now, refuse, heq⟩
    obtain ⟨x, hx, hbefalls⟩ := Client.befalls_after hsocket ho
    refine ⟨x.status, ?_, hbefalls.ne_waitingStatus hnot, hbefalls.answered_of_ne⟩
    rw [w.run_concat_of_ne happened hne]
    exact Client.statusAt_of_socket? hx

/-- **An answer is not forgotten**: the socket does not wait any more, and it is in the state of the
answer unless the link was lost after it. -/
theorem status_of_answered (h : w.Counts call settings seq [])
    (helse : ∀ o ∈ happened, o.Elsewhere call.socket) (hanswered : w.Answered call happened rest) :
    ∃ status, (w.run happened).client.statusAt call.socket = some status ∧
      status ≠ call.kind.waitingStatus ∧ (.linkLost ∉ rest → status = call.kind.answered) := by
  obtain ⟨first, g, now, refuse, s, rfl, hfound, hasks, hk⟩ := hanswered
  induction rest using List.reverseRecOn with
  | nil =>
    have hs := (Client.socket?_of_lookup hfound).1
    refine ⟨call.kind.answered, ?_, HandshakeKind.answered_ne_waitingStatus _ _, fun _ => rfl⟩
    rw [w.run_concat_of_ne (o := .handle g now refuse) first nofun, Client.after, Client.handle,
      hfound]
    dsimp only
    rw [hasks, hk]
    cases call.kind <;> exact Client.statusAt_of_socket? (Client.socket?_set_self hs _)
  | append_singleton rest o ih =>
    rw [← List.cons_append, ← List.append_assoc] at helse ⊢
    have hbefore := fun o' ho' => helse o' (List.mem_append_left _ ho')
    obtain ⟨status, hs, hnot, hsame⟩ := ih hbefore
    obtain ⟨status', hs', hnot', hsame'⟩ := (h.run hbefore).released_step
      (helse o (List.mem_append_right _ (List.mem_singleton.2 rfl))) hs hnot
    refine ⟨status', hs', hnot', fun hkept => ?_⟩
    rw [List.mem_append, not_or, List.mem_singleton] at hkept
    exact hsame' (hsame hkept.1) (Ne.symm hkept.2)

/-- **An answer wins over the timeout**: a call that is woken after it returns at once, and succeeds
unless it is a call to connect and the link was lost after the answer. -/
theorem returned_of_answered (h : w.Counts call settings seq [])
    (helse : ∀ o ∈ happened, o.Elsewhere call.socket) (hanswered : w.Answered call happened rest)
    (hwaits : (w.run happened).state = .waiting later) :
    (w.run (happened ++ [.wake now refuse])).state = .finished (.ok ()) ∨
      call.kind = .connect ∧ .linkLost ∈ rest ∧
        (w.run (happened ++ [.wake now refuse])).state =
          .finished (.error (.connectionLost call.socket .closed)) := by
  obtain ⟨status, hs, hnot, hsame⟩ := status_of_answered h helse hanswered
  have houtcome := (h.run helse).outcome hwaits now refuse
  generalize (w.run (happened ++ [.wake now refuse])).state = state at houtcome ⊢
  have hreleased : (w.run happened).client.statusAt call.socket ≠ some call.kind.waitingStatus :=
    fun hasks => hnot (Option.some.inj (hs.symm.trans hasks))
  cases houtcome with
  | waits hasks => exact absurd hasks hreleased
  | timedOut hasks => exact absurd hasks hreleased
  | refused hasks => exact absurd hasks hreleased
  | succeeded => exact .inl rfl
  | lost hkind hclosed =>
    refine .inr ⟨hkind, ?_, rfl⟩
    by_contra hkept
    have hconnected := hsame hkept
    rw [hkind] at hconnected
    cases (hs.symm.trans hclosed).symm.trans (congrArg some hconnected)

/-- A call that fails leaves its socket without a connection. -/
theorem closed_of_failed (h : w.Counts call settings seq happened)
    (hwaits : (w.run happened).state = .waiting later) {e : Error}
    (hfailed : (w.run (happened ++ [.wake now refuse])).state = .finished (.error e)) :
    (w.run (happened ++ [.wake now refuse])).client.statusAt call.socket = some .closed := by
  have houtcome := h.outcome hwaits now refuse
  obtain ⟨k, later', -, -, hafter, hwakes⟩ := h.wakes hwaits now refuse
  obtain ⟨s, hs, -⟩ := h.socket
  have hends : ∀ timedOut, (timedOut = false → s.state.status = .closed) →
      ((w.run happened).client.finish later' timedOut).1.statusAt call.socket = some .closed := by
    intro timedOut hclosed
    obtain ⟨x, hx, -, hstatus⟩ := Client.socket?_finish (hafter.socket_eq.symm ▸ hs) timedOut
    rw [Client.statusAt_of_socket? (hafter.socket_eq ▸ hx), Option.some_inj]
    rcases hstatus with ⟨hstatus, -⟩ | ⟨hsame, hno⟩
    · exact hstatus
    · exact hsame.trans (hclosed hno)
  rw [hfailed] at houtcome
  generalize (w.run (happened ++ [.wake now refuse])).client = c at hwakes ⊢
  generalize (w.run (happened ++ [.wake now refuse])).state = state at hwakes hfailed
  cases hwakes with
  | waits => cases hfailed
  | timedOut => exact hends true nofun
  | refused => exact hends true nofun
  | released hnot =>
    rw [status_connectionOf hafter hs, hafter.kind_eq] at hnot
    have hat := Client.statusAt_of_socket? hs
    refine hends false fun _ => ?_
    cases houtcome with
    | timedOut hasks => exact absurd (Option.some.inj (hat.symm.trans hasks)) hnot
    | refused hasks => exact absurd (Option.some.inj (hat.symm.trans hasks)) hnot
    | lost _ hclosed => exact Option.some.inj (hat.symm.trans hclosed)

end Counts

/-- What a call of a client with some settings returns when it is woken at a time, after several
things have happened. -/
structure Returns (w : Awaited) (call : Handshake) (settings : Settings)
    (happened : List Client.Occurrence) (now : Nat) (refuse : Refusal Error) : Prop where
  /-- It times out exactly if all attempts were made, the last one is overdue, and the socket still
  waits. -/
  timesOut : (w.run (happened ++ [.wake now refuse])).state = .finished
      (.error (call.kind.timeoutError settings call.socket call.node call.request.destPort)) ↔
    (w.run happened).client.statusAt call.socket = some call.kind.waitingStatus ∧
    (w.attempts (happened ++ [.wake now refuse])).length = call.kind.maxAttempts settings ∧
    Attempt.Overdue (w.attempts (happened ++ [.wake now refuse])) (call.kind.timeout settings) now
  /-- It fails with the reason of the link exactly if the next attempt, of which there was one to
  make, was refused for that reason. -/
  refused : ∀ reason, (w.run (happened ++ [.wake now refuse])).state =
      .finished (.error (.transportClosed reason)) ↔
    (w.run happened).client.statusAt call.socket = some call.kind.waitingStatus ∧
    (w.attempts (happened ++ [.wake now refuse])).length < call.kind.maxAttempts settings ∧
    (w.attempts (happened ++ [.wake now refuse]) = [] ∨
      Attempt.Overdue (w.attempts (happened ++ [.wake now refuse])) (call.kind.timeout settings)
        now) ∧
    refuse ((w.attempts (happened ++ [.wake now refuse])).length - (w.attempts happened).length)
      call.request = some (.transportClosed reason)
  /-- A call to connect succeeds only after the answer has arrived. -/
  connected : call.kind = .connect →
    (w.run (happened ++ [.wake now refuse])).state = .finished (.ok ()) →
    ∃ rest, w.Answered call happened rest
  /-- After the answer the call succeeds, unless it is a call to connect and the link was lost. -/
  answered : ∀ rest, w.Answered call happened rest →
    (w.run (happened ++ [.wake now refuse])).state = .finished (.ok ()) ∨
      call.kind = .connect ∧ .linkLost ∈ rest ∧
        (w.run (happened ++ [.wake now refuse])).state =
          .finished (.error (.connectionLost call.socket .closed))
  /-- There is one more error, and after every error the socket can be connected again. -/
  failed : ∀ e, (w.run (happened ++ [.wake now refuse])).state = .finished (.error e) →
    (e = call.kind.timeoutError settings call.socket call.node call.request.destPort ∨
      (∃ reason, e = .transportClosed reason) ∨
      call.kind = .connect ∧ .linkLost ∈ happened ∧ e = .connectionLost call.socket .closed) ∧
    (w.run (happened ++ [.wake now refuse])).client.statusAt call.socket = some .closed ∧
    ∀ node port, ∃ begun,
      (w.run (happened ++ [.wake now refuse])).client.connect call.socket node port = .ok begun

theorem Counts.returns {later : Handshake} {now : Nat} {refuse : Refusal Error}
    (h : w.Counts call settings seq []) (helse : ∀ o ∈ happened, o.Elsewhere call.socket)
    (hwaits : (w.run happened).state = .waiting later)
    (hmax : 0 < call.kind.maxAttempts settings)
    (hcloses : ∀ n g e, refuse n g = some e → ∃ reason, e = .transportClosed reason) :
    w.Returns call settings happened now refuse := by
  have hnow := h.run helse
  have houtcome := hnow.outcome hwaits now refuse
  obtain ⟨s, hs, -, hwhy⟩ := hnow.socket
  have hexplained := hwhy later hwaits
  have hat := Client.statusAt_of_socket? hs
  refine ⟨hnow.timesOut_iff hwaits hmax hcloses, hnow.refused_iff hwaits, fun hkind hok => ?_,
    fun rest hanswered => h.returned_of_answered helse hanswered hwaits, fun e hfailed => ?_⟩
  · rw [hok] at houtcome
    cases houtcome with
    | succeeded _ hconnected =>
      rcases hconnected with hdisconnect | hconnected
      · cases hkind.symm.trans hdisconnect
      -- of the three states only the one of the answer is that of a connection
      · rw [hat, Option.some_inj] at hconnected
        generalize s.state.status = st at hexplained hconnected
        cases hexplained with
        | waits => rw [hkind] at hconnected; cases hconnected
        | answered rest h => exact ⟨rest, h⟩
        | lost => cases hconnected
  · have hclosed := hnow.closed_of_failed hwaits hfailed
    refine ⟨?_, hclosed, Client.exists_connect hclosed⟩
    rw [hfailed] at houtcome
    generalize hresult : HandshakeState.finished (.error e) = state at houtcome
    cases houtcome with
    | waits => cases hresult
    | timedOut =>
      cases hresult
      exact .inl rfl
    | refused _ _ _ hrefuse =>
      cases hresult
      exact .inr (.inl (hcloses _ _ _ hrefuse))
    | succeeded => cases hresult
    | lost hkind hclosed =>
      cases hresult
      rw [hat, Option.some_inj] at hclosed
      refine .inr (.inr ⟨hkind, ?_, rfl⟩)
      generalize s.state.status = st at hexplained hclosed
      cases hexplained with
      | waits => rw [hkind] at hclosed; cases hclosed
      | answered => rw [hkind] at hclosed; cases hclosed
      | lost hlost => exact hlost

end Awaited

/-! ### Calls that begin -/

namespace HandshakeKind

/-- The state of the socket before a call. -/
def needed : HandshakeKind → Status
  | connect => .closed
  | disconnect => .connected

/-- The node and the port that a call asks: those that it is given, or those of the connection. -/
def peer (x : ClientConnection) (node : NodeId) (port : UInt32) :
    HandshakeKind → NodeId × UInt32
  | connect => (node, port)
  | disconnect => (x.serverNode, x.serverPort)

/-- The turn of a client in which a call begins. -/
def move (id : SocketId) (node : NodeId) (port : UInt32) : HandshakeKind → ClientMove
  | connect => .connect id node port
  | disconnect => .disconnect id

theorem maxAttempts_pos {settings : Settings} (h : settings.validate = .ok ())
    (kind : HandshakeKind) : 0 < kind.maxAttempts settings := by
  unfold Settings.validate at h
  split at h
  · cases h
  · split at h
    · cases h
    · split at h
      · cases h
      · split at h
        · cases h
        · cases kind <;> simp only [maxAttempts] <;> omega

end HandshakeKind

namespace Client

variable {c c' : Client} {id : SocketId} {kind : HandshakeKind} {node : NodeId} {port : UInt32}
  {call : Handshake}

/-- Begins a call.  A call to disconnect asks the server of the connection. -/
def begin (c : Client) (id : SocketId) (node : NodeId) (port : UInt32) :
    HandshakeKind → Except Error (Client × Handshake)
  | .connect => c.connect id node port
  | .disconnect => c.disconnect id

/-- A call that begins needs a socket in the right state, and takes one number of the stream. -/
theorem begin_cases (c : Client) (id : SocketId) (node : NodeId) (port : UInt32)
    (kind : HandshakeKind) :
    c.sockets.socket? id = none ∧ c.begin id node port kind = .error (.noSuchSocket id) ∨
    ∃ s, c.sockets.socket? id = some s ∧
      (s.state.status ≠ kind.needed ∧ c.begin id node port kind =
          .error (.invalidState id s.state.status kind.needed) ∨
        s.state.status = kind.needed ∧ ∃ x : ClientConnection,
          x.status = kind.waitingStatus ∧ x.nextSeq = s.state.nextSeq + 1 ∧
          c.begin id node port kind = .ok (c.set id x, {
            socket := id
            kind
            node := (kind.peer s.state node port).1
            request := kind.request s.port (kind.peer s.state node port).2 s.state.nextSeq })) := by
  cases hs : c.sockets.socket? id with
  | none =>
    refine .inl ⟨rfl, ?_⟩
    cases kind
    all_goals
      simp only [begin, connect, disconnect, SocketTable.require, hs]
      rfl
  | some s =>
    refine .inr ⟨s, rfl, ?_⟩
    by_cases hstatus : s.state.status = kind.needed
    · refine .inr ⟨hstatus, ?_⟩
      cases kind with
      | connect =>
        refine ⟨{ s.state with
          serverNode := node
          serverPort := port
          nextSeq := s.state.nextSeq + 1
          status := .synSent }, rfl, rfl, ?_⟩
        rw [begin, connect, require_eq hs]
        exact if_pos hstatus
      | disconnect =>
        refine ⟨{ s.state with nextSeq := s.state.nextSeq + 1, status := .finWait }, rfl, rfl, ?_⟩
        rw [begin, disconnect, require_eq hs]
        exact if_pos hstatus
    · refine .inl ⟨hstatus, ?_⟩
      cases kind with
      | connect =>
        rw [begin, connect, require_eq hs]
        exact if_neg hstatus
      | disconnect =>
        rw [begin, disconnect, require_eq hs]
        exact if_neg hstatus

/-- The turn in which a call begins. -/
theorem step_begin {b : BusyClient} {t : ClientTurn} (kind : HandshakeKind) (node : NodeId)
    (port : UInt32) (hmove : t.move = kind.move id node port) :
    b.step t = (b.begin (b.client.begin id node port kind), []) := by
  unfold BusyClient.step
  rw [hmove]
  cases kind <;> rfl

/-- A call that does not begin changes nothing. -/
theorem unchanged_of_error {e : Error} (h : c.begin id node port kind = .error e)
    (calls : List Handshake) (now : Nat) (refuse : Refusal Error) :
    BusyClient.step ⟨c, calls⟩ ⟨kind.move id node port, now, refuse⟩ = (⟨c, calls⟩, []) := by
  rw [step_begin kind node port rfl, h]
  rfl

/-- A call that has just begun has sent nothing. -/
theorem counts_begin {s : Socket ClientConnection} {x : ClientConnection}
    (hs : c.sockets.socket? id = some s) (hx : x.status = kind.waitingStatus) (node : NodeId)
    (request : Segment) :
    Awaited.Counts ⟨c.set id x, .waiting { socket := id, kind, node, request }⟩
      { socket := id, kind, node, request } c.settings x.nextSeq [] where
  settings_eq := rfl
  same := nofun
  length_le := Nat.zero_le _
  after := by
    rintro later hwaits
    cases hwaits
    exact ⟨0, rfl, nofun⟩
  socket := ⟨_, socket?_set_self hs x, rfl, fun _ _ => hx ▸ .waits⟩

/-- **Requests are sent again, and how that ends.**  A call to connect or to disconnect on a socket
of a client with valid settings begins if there is such a socket and it is in the right state;
otherwise it is one of two errors, and nothing changes.  Whatever happens while the call waits,
other than calls on the same socket, and whenever it is woken: it sends at most as many requests as
the settings allow, which are all the same, to the same node; it takes one number of the stream; and
when it is woken it returns what the attempts, the time, the link and the answer say. -/
theorem handshake_returns (hvalid : c.settings.validate = .ok ()) (id : SocketId) (node : NodeId)
    (port : UInt32) (kind : HandshakeKind) :
    (∀ e, c.begin id node port kind = .error e →
      (c.sockets.socket? id = none ∧ e = .noSuchSocket id ∨
        ∃ s, c.sockets.socket? id = some s ∧ s.state.status ≠ kind.needed ∧
          e = .invalidState id s.state.status kind.needed) ∧
      ∀ calls now refuse, BusyClient.step ⟨c, calls⟩ ⟨kind.move id node port, now, refuse⟩ =
        (⟨c, calls⟩, [])) ∧
    ∀ c' call, c.begin id node port kind = .ok (c', call) →
      ∃ s, c.sockets.socket? id = some s ∧ s.state.status = kind.needed ∧
        call.socket = id ∧ call.kind = kind ∧
        call.node = (kind.peer s.state node port).1 ∧
        call.request = kind.request s.port (kind.peer s.state node port).2 s.state.nextSeq ∧
        ∀ happened : List Occurrence, (∀ o ∈ happened, o.Elsewhere id) →
          let w : Awaited := ⟨c', .waiting call⟩
          (w.attempts happened).length ≤ kind.maxAttempts c.settings ∧
          (∀ a ∈ w.attempts happened, a.node = call.node ∧ a.request = call.request) ∧
          (∃ s', (w.run happened).client.sockets.socket? id = some s' ∧
            s'.state.nextSeq = s.state.nextSeq + 1) ∧
          ∀ later now refuse, (w.run happened).state = .waiting later →
            (∀ n g e, refuse n g = some e → ∃ reason, e = .transportClosed reason) →
            w.Returns call c.settings happened now refuse := by
  rcases c.begin_cases id node port kind with
    ⟨hs, hbegin⟩ | ⟨s, hs, ⟨hstatus, hbegin⟩ | ⟨hstatus, x, hx, hseq, hbegin⟩⟩
  · refine ⟨fun e he => ?_, fun c' call hok => ?_⟩
    · rw [hbegin] at he
      cases he
      exact ⟨.inl ⟨hs, rfl⟩, unchanged_of_error hbegin⟩
    · cases hbegin.symm.trans hok
  · refine ⟨fun e he => ?_, fun c' call hok => ?_⟩
    · rw [hbegin] at he
      cases he
      exact ⟨.inr ⟨s, hs, hstatus, rfl⟩, unchanged_of_error hbegin⟩
    · cases hbegin.symm.trans hok
  · refine ⟨fun e he => ?_, fun c' call hok => ?_⟩
    · cases hbegin.symm.trans he
    · rw [hbegin] at hok
      cases hok
      refine ⟨s, hs, hstatus, rfl, rfl, rfl, rfl, fun happened helse => ?_⟩
      have hcounts := counts_begin hs hx (kind.peer s.state node port).1
        (kind.request s.port (kind.peer s.state node port).2 s.state.nextSeq)
      have hnow := hcounts.run helse
      obtain ⟨s', hs', hnext, -⟩ := hnow.socket
      exact ⟨hnow.length_le, hnow.same, ⟨s', hs', hnext.trans hseq⟩, fun later now refuse hwaits =>
        hcounts.returns helse hwaits (kind.maxAttempts_pos hvalid)⟩

/-- Port 7 of a client that asks twice. -/
def askingTwice : Client :=
  ⟨{ synAttempts := 2 }, ⟨[some ⟨7, {}⟩]⟩⟩

/-- The client with a call to connect to port 9 of node 2. -/
def askedTwice : Awaited :=
  ⟨askingTwice.set 0 { serverNode := 2, serverPort := 9, status := .synSent, nextSeq := 1 },
    .waiting { socket := 0, kind := .connect, node := 2, request := Segment.synOf 7 9 0 }⟩

/-- The call is woken at once, too early, and after the timeout. -/
def threeWakes : List Occurrence :=
  [.wake 0 neverRefused, .wake 50 neverRefused, .wake 100 neverRefused]

/-- The request is sent at once and after the timeout.  When the second one has not been answered
for as long, the call gives up. -/
theorem handshake_returns_askingTwice :
    askingTwice.settings.validate = .ok () ∧
      (askedTwice.attempts (threeWakes ++ [.wake 200 neverRefused])).map (·.time) = [0, 100] ∧
      (∀ a ∈ askedTwice.attempts threeWakes, a.node = 2 ∧ a.request = Segment.synOf 7 9 0) ∧
      (askedTwice.run (threeWakes ++ [.wake 200 neverRefused])).state =
        .finished (.error (.connectTimeout 0 2 2 9)) := by
  have hvalid : askingTwice.settings.validate = .ok () := rfl
  obtain ⟨-, hreturns⟩ := handshake_returns hvalid 0 2 9 .connect
  obtain ⟨s, -, -, -, -, -, -, hrun⟩ := hreturns askedTwice.client
    { socket := 0, kind := .connect, node := 2, request := Segment.synOf 7 9 0 } rfl
  obtain ⟨-, hsame, -, hwake⟩ := hrun threeWakes fun o ho => by
    simp only [threeWakes, List.mem_cons, List.not_mem_nil, or_false] at ho
    rcases ho with rfl | rfl | rfl <;> trivial
  have htimes : (askedTwice.attempts (threeWakes ++ [.wake 200 neverRefused])).map (·.time) =
      [0, 100] := by decide +kernel
  have hasks : (askedTwice.run threeWakes).client.statusAt 0 = some .synSent := by decide +kernel
  have hwaits : (askedTwice.run threeWakes).state = .waiting
      { socket := 0
        kind := .connect
        node := 2
        request := Segment.synOf 7 9 0
        attempts := 2
        lastSent := 100 } := by
    with_unfolding_all rfl
  refine ⟨hvalid, htimes, hsame, (hwake _ 200 neverRefused hwaits nofun).timesOut.2 ⟨hasks, ?_, ?_⟩⟩
  · rw [← List.length_map (·.time)]
    exact congrArg List.length htimes
  · have hlast := congrArg List.getLast? htimes
    rw [List.getLast?_map] at hlast
    obtain ⟨last, hlast, htime⟩ := Option.map_eq_some_iff.1 hlast
    exact ⟨last, hlast, htime ▸ by decide⟩

end Client

end OverlayStack.Transport
