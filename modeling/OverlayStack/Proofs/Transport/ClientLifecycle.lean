import OverlayStack.Proofs.Transport.Outgoing
import OverlayStack.Proofs.Transport.Retries

/-!
# The life of a client's socket

A socket of a client goes round: it is closed, it waits for a connection, it is connected, it waits
for the end of the connection, and it is closed again.  Each of these changes has its causes, and
the loss of the link closes it from anywhere.  If no call is made on a socket while another one
still waits on it, then nothing is left of a connection when the next one begins: whatever carries
bytes was queued in the connection in which it is sent, and goes to the server of that connection,
whichever timers are still running.

## Main definitions

* `BusyClient.Sequential` — no call is made on a socket while another one waits on it.
* `BusyClient.Changes` — the changes of a socket, with their causes.
* `BusyClient.Lawful` — the invariant of the sockets and calls of a client.
* `BusyClient.OpenFor`, `BusyClient.Carries` — how long a connection lasts, and what it carries.

## Main results

* `BusyClient.status_step` — every change has one of the causes.
* `BusyClient.Owned.step`, `BusyClient.owned_run` — what is queued belongs to the connection.
* `BusyClient.connection_lifecycle` — the life of a socket, and what its connections carry.
-/

namespace OverlayStack.Transport

open ClientConnection (segmentsOf)

/-- The socket that a call is made on, if what is done is such a call. -/
def ClientMove.socket? : ClientMove → Option SocketId
  | .close id | .connect id _ _ | .disconnect id | .send id _ => some id
  | _ => none

/-- Nothing is queued in an empty buffer. -/
theorem SendBuffer.segments_eq_nil {buffer : SendBuffer} (h : buffer.isEmpty = true) :
    buffer.segments = [] := by
  rw [isEmpty, Bool.and_eq_true, List.isEmpty_iff, List.isEmpty_iff] at h
  rw [segments, h.1, h.2]
  rfl

theorem ClientConnection.segments_transmit (x : ClientConnection) (window now : Nat)
    (refuse : Refusal Error) :
    (x.transmit window now refuse).1.buffer.segments = x.buffer.segments :=
  SendBuffer.segments_transmit _ _ _ _

/-- What is transmitted is queued, and goes to the server. -/
theorem ClientConnection.queued_of_transmit {x : ClientConnection} {window now : Nat}
    {refuse : Refusal Error} {node : NodeId} {g : Segment}
    (h : (node, g) ∈ (x.transmit window now refuse).2.1) :
    node = x.serverNode ∧ g ∈ (x.transmit window now refuse).1.buffer.segments := by
  obtain ⟨g', hg', heq⟩ := List.mem_map.1 h
  cases heq
  rw [segments_transmit]
  exact ⟨rfl, x.buffer.subset_segments_of_transmit window now refuse hg'⟩

theorem ClientConnection.serverNode_withTimer (x : ClientConnection) :
    x.withTimer.serverNode = x.serverNode := by
  unfold withTimer
  split <;> rfl

namespace BusyClient

variable {b : BusyClient} {turns : List ClientTurn} {t : ClientTurn} {id : SocketId}

/-- A call waits on a socket. -/
def Busy (b : BusyClient) (id : SocketId) : Prop :=
  ∃ call ∈ b.calls, call.socket = id

instance decidableBusy (b : BusyClient) (id : SocketId) : Decidable (b.Busy id) :=
  inferInstanceAs (Decidable (∃ call ∈ b.calls, call.socket = id))

/-- No call is made on a socket while another one still waits on it. -/
def Sequential (b : BusyClient) : List ClientTurn → Prop
  | [] => True
  | t :: turns => (∀ id ∈ t.move.socket?, ¬ b.Busy id) ∧ (b.step t).1.Sequential turns

instance decidableSequential : (b : BusyClient) → (turns : List ClientTurn) →
    Decidable (b.Sequential turns)
  | _, [] => isTrue trivial
  | b, t :: turns =>
    have := decidableSequential (b.step t).1 turns
    inferInstanceAs (Decidable ((∀ id ∈ t.move.socket?, ¬ b.Busy id) ∧ _))

theorem Leaving.busy (h : b.Leaving id) : b.Busy id := by
  obtain ⟨call, hmem, hsocket, -⟩ := h
  exact ⟨call, hmem, hsocket⟩

theorem sequential_concat (h : b.Sequential (turns ++ [t])) :
    b.Sequential turns ∧ ∀ id ∈ t.move.socket?, ¬ (b.run turns).Busy id := by
  induction turns generalizing b with
  | nil => exact ⟨trivial, h.1⟩
  | cons t' turns ih =>
    obtain ⟨hsequential, hlast⟩ := ih h.2
    exact ⟨⟨h.1, hsequential⟩, hlast⟩

/-- In particular no call to connect begins while a call to disconnect still waits. -/
theorem Sequential.orderly (h : b.Sequential turns) : b.Orderly turns := by
  induction turns generalizing b with
  | nil => trivial
  | cons t turns ih =>
    refine ⟨fun id node port hmove hleaving => h.1 id ?_ hleaving.busy, ih h.2⟩
    rw [hmove]
    rfl

/-! ### Changes -/

/-- The changes of the state of a socket in a turn, with their causes. -/
inductive Changes (b : BusyClient) (t : ClientTurn) (id : SocketId) : Status → Status → Prop where
  /-- A call to connect begins. -/
  | connects {node : NodeId} {port : UInt32} (hmove : t.move = .connect id node port) :
      Changes b t id .closed .synSent
  /-- The connection is granted. -/
  | granted {g : Segment} {s : Socket ClientConnection} (hmove : t.move = .handle g)
      (hfound : b.client.lookup g = some (id, s)) (hk : g.kind = .synAck) :
      Changes b t id .synSent .connected
  /-- A call to disconnect begins. -/
  | disconnects (hmove : t.move = .disconnect id) : Changes b t id .connected .finWait
  /-- The end of the connection is confirmed. -/
  | confirmed {g : Segment} {s : Socket ClientConnection} (hmove : t.move = .handle g)
      (hfound : b.client.lookup g = some (id, s)) (hk : g.kind = .finAck) :
      Changes b t id .finWait .closed
  /-- A call to disconnect returns. -/
  | disconnected {place : Nat} {call : Handshake} {result : Except Error Unit}
      (hmove : t.move = .wake place) (hcall : b.calls[place]? = some call)
      (hsocket : call.socket = id) (hkind : call.kind = .disconnect)
      (hreturns : (b.client.advance call t.now t.refuse).state = .finished result) :
      Changes b t id .finWait .closed
  /-- A call to connect returns. -/
  | gaveUp {place : Nat} {call : Handshake} {result : Except Error Unit}
      (hmove : t.move = .wake place) (hcall : b.calls[place]? = some call)
      (hsocket : call.socket = id) (hkind : call.kind = .connect)
      (hreturns : (b.client.advance call t.now t.refuse).state = .finished result) :
      Changes b t id .synSent .closed
  /-- The link is lost. -/
  | lost {st : Status} (hmove : t.move = .linkLost) : Changes b t id st .closed

/-- What holds of the sockets and the calls of a client: its sockets are in the states of a client,
calls to disconnect wait on sockets that are being disconnected, and requests carry no bytes. -/
structure Lawful (b : BusyClient) : Prop where
  statuses : ∀ id st, b.client.statusAt id = some st →
    st ∈ [.closed, .synSent, .connected, .finWait]
  leaving : ∀ id st, b.Leaving id → b.client.statusAt id = some st → st = .finWait ∨ st = .closed
  requests : ∀ call ∈ b.calls, call.request.kind ≠ .data

section Steps

variable {st st' : Status} {kind : HandshakeKind} {node : NodeId} {port : UInt32}

/-- A call that begins makes its socket wait. -/
theorem begun_of_ok {c : Client} {call : Handshake}
    (h : b.client.begin id node port kind = .ok (c, call)) :
    call.socket = id ∧ call.kind = kind ∧ call.request.kind ≠ .data ∧
      b.client.statusAt id = some kind.needed ∧
      ∃ x : ClientConnection, x.status = kind.waitingStatus ∧ c = b.client.set id x := by
  rcases b.client.begin_cases id node port kind with
    ⟨-, hbegin⟩ | ⟨s, hs, ⟨-, hbegin⟩ | ⟨hneeded, x, hx, -, hbegin⟩⟩
  · cases hbegin.symm.trans h
  · cases hbegin.symm.trans h
  · rw [hbegin] at h
    cases h
    refine ⟨rfl, rfl, ?_, Client.statusAt_eq_some_iff.2 ⟨s, hs, hneeded⟩, x, hx, rfl⟩
    cases kind <;> nofun

/-- A call that begins changes at most the state of its socket. -/
theorem status_begin {j : SocketId} (hs : b.client.statusAt id = some st)
    (hs' : (b.begin (b.client.begin j node port kind)).client.statusAt id = some st') :
    st' = st ∨ j = id ∧ st = kind.needed ∧ st' = kind.waitingStatus := by
  cases hbegin : b.client.begin j node port kind with
  | error e =>
    rw [hbegin] at hs'
    exact .inl (Option.some.inj (hs'.symm.trans hs))
  | ok begun =>
    obtain ⟨c, call⟩ := begun
    obtain ⟨-, -, -, hneeded, x, hx, hc⟩ := begun_of_ok hbegin
    rw [hbegin] at hs'
    dsimp only [begin] at hs'
    rw [hc, Client.statusAt_set] at hs'
    split at hs'
    · next hid =>
      subst hid
      rw [hs] at hs'
      exact .inr ⟨rfl, Option.some.inj (hs.symm.trans hneeded), (Option.some.inj hs').symm.trans hx⟩
    · exact .inl (Option.some.inj (hs'.symm.trans hs))

/-- A segment that arrives grants a connection, confirms its end, or changes no state. -/
theorem status_handle {g : Segment} (hmove : t.move = .handle g)
    (hs : b.client.statusAt id = some st)
    (hs' : (b.client.handle g t.now t.refuse).state.statusAt id = some st') :
    st' = st ∨ b.Changes t id st st' := by
  obtain ⟨s, hsocket, rfl⟩ := Client.statusAt_eq_some_iff.1 hs
  obtain ⟨y, hy, hbefalls⟩ := Client.befalls_handle hsocket g t.now t.refuse
  obtain rfl := Option.some.inj ((Client.statusAt_of_socket? hy).symm.trans hs')
  cases hbefalls with
  | stays hstatus => exact .inl hstatus
  | @answered kind _ _ _ heq hfound hwaits hk =>
    cases heq
    right
    dsimp only
    rw [hwaits]
    cases kind with
    | connect => exact .granted hmove hfound hk
    | disconnect => exact .confirmed hmove hfound hk
  | lost heq => cases heq

/-- A call that wakes up changes at most the state of its socket, and only when it returns. -/
theorem status_wake {place : Nat} (hmove : t.move = .wake place)
    (hleaving : b.Leaving id → st = .finWait ∨ st = .closed)
    (hs : b.client.statusAt id = some st)
    (hs' : (b.wake place t.now t.refuse).1.client.statusAt id = some st') :
    st' = st ∨ b.Changes t id st st' := by
  unfold wake at hs'
  cases hcall : b.calls[place]? with
  | none =>
    rw [hcall] at hs'
    exact .inl (Option.some.inj (hs'.symm.trans hs))
  | some call =>
    have hclient : (b.client.advance call t.now t.refuse).client.statusAt id = some st' := by
      rw [hcall] at hs'
      dsimp only at hs'
      split at hs' <;> exact hs'
    obtain ⟨-, -, -, hwoken⟩ := b.client.woken_advanceFrom call t.now 0 t.refuse
    rw [← Client.advance] at hwoken
    generalize (b.client.advance call t.now t.refuse).client = c at hwoken hclient
    generalize hstate : (b.client.advance call t.now t.refuse).state = state at hwoken
    -- a call that returns has to do with the socket only if it is its own
    have hset : ∀ x : ClientConnection, (b.client.set call.socket x).statusAt id = some st' →
        st' = st ∨ call.socket = id ∧ st' = x.status := by
      intro x hx
      rw [Client.statusAt_set] at hx
      split at hx
      · next hid =>
        rw [hs] at hx
        exact .inr ⟨hid.symm, (Option.some.inj hx).symm⟩
      · exact .inl (Option.some.inj (hx.symm.trans hs))
    cases hwoken with
    | waits => exact .inl (Option.some.inj (hclient.symm.trans hs))
    | returned => exact .inl (Option.some.inj (hclient.symm.trans hs))
    | gaveUp hkind hwaits =>
      rcases hset _ hclient with hsame | ⟨hsocket, rfl⟩
      · exact .inl hsame
      · rw [Client.status_connectionOf (hsocket ▸ hs)] at hwaits
        subst hwaits
        exact .inr (.gaveUp hmove hcall hsocket hkind hstate)
    | ended hkind =>
      rcases hset _ hclient with hsame | ⟨hsocket, rfl⟩
      · exact .inl hsame
      · rcases hleaving ⟨call, List.mem_of_getElem? hcall, hsocket, hkind⟩ with rfl | rfl
        · exact .inr (.disconnected hmove hcall hsocket hkind hstate)
        · exact .inl rfl

/-- **Every change has one of the causes.** -/
theorem status_step (hleaving : b.Leaving id → st = .finWait ∨ st = .closed)
    (hs : b.client.statusAt id = some st) (hs' : (b.step t).1.client.statusAt id = some st') :
    st' = st ∨ b.Changes t id st st' := by
  have hsame : b.client.statusAt id = some st' → st' = st :=
    fun h => Option.some.inj (h.symm.trans hs)
  cases hmove : t.move with
  | openSocket port =>
    rw [step, hmove] at hs'
    dsimp only at hs'
    split at hs'
    · exact .inl (hsame hs')
    · next hopen =>
      obtain ⟨sockets, htable, rfl⟩ := Client.openSocket_eq_ok hopen
      obtain ⟨s, hsocket, rfl⟩ := Client.statusAt_eq_some_iff.1 hs
      have hkept := SocketTable.socket?_openSocket htable hsocket
      exact .inl (Option.some.inj (hs'.symm.trans
        (Client.statusAt_of_socket? (c := { b.client with sockets }) hkept)))
  | close j =>
    rw [step, hmove] at hs'
    dsimp only at hs'
    split at hs'
    · exact .inl (hsame hs')
    · next hclose =>
      rw [Client.close_eq_ok hclose] at hs'
      obtain ⟨s, hsocket, rfl⟩ := Client.statusAt_eq_some_iff.1 hs'
      exact .inl (hsame (Client.statusAt_of_socket? (SocketTable.socket?_of_close hsocket)))
  | connect j node port =>
    rw [Client.step_begin .connect node port hmove] at hs'
    rcases status_begin hs hs' with heq | ⟨rfl, rfl, rfl⟩
    · exact .inl heq
    · exact .inr (.connects hmove)
  | disconnect j =>
    rw [Client.step_begin .disconnect 0 0 hmove] at hs'
    rcases status_begin hs hs' with heq | ⟨rfl, rfl, rfl⟩
    · exact .inl heq
    · exact .inr (.disconnects hmove)
  | wake place =>
    rw [step, hmove] at hs'
    exact status_wake hmove hleaving hs hs'
  | send j data =>
    rw [step, hmove] at hs'
    exact .inl (hsame ((Client.statusAt_send b.client j data _ _).symm.trans hs'))
  | handle g =>
    rw [step, hmove] at hs'
    exact status_handle hmove hs hs'
  | timer j =>
    rw [step, hmove] at hs'
    exact .inl (hsame ((Client.statusAt_pollTimer b.client j _ _).symm.trans hs'))
  | linkLost =>
    rw [step, hmove] at hs'
    dsimp only at hs'
    rw [Client.statusAt_linkLost, hs] at hs'
    cases hs'
    exact .inr (.lost hmove)

/-- A socket that was not there before is closed. -/
theorem status_of_fresh (hs : b.client.statusAt id = none)
    (hs' : (b.step t).1.client.statusAt id = some st') : st' = .closed := by
  obtain ⟨s, hsocket, rfl⟩ := Client.statusAt_eq_some_iff.1 hs'
  have hnone : ∀ s₀, b.client.sockets.socket? id ≠ some s₀ := fun s₀ hs₀ => by
    cases hs.symm.trans (Client.statusAt_of_socket? hs₀)
  cases socket?_step hsocket with
  | fresh => rfl
  | kept hs₀ => exact absurd hs₀ (hnone _)
  | ended hs₀ => exact absurd hs₀ (hnone _)
  | shifted hs₀ => exact absurd hs₀ (hnone _)

/-- Where a call that waits after a turn comes from. -/
inductive CallFollows (b : BusyClient) (t : ClientTurn) (call : Handshake) : Prop where
  /-- It has waited before. -/
  | kept {before : Handshake} (hmem : before ∈ b.calls) (hsocket : call.socket = before.socket)
      (hkind : call.kind = before.kind) (hrequest : call.request = before.request) :
      CallFollows b t call
  /-- It begins in the turn. -/
  | begun {id : SocketId} {node : NodeId} {port : UInt32} {c : Client}
      (hmove : t.move = call.kind.move id node port)
      (hbegin : b.client.begin id node port call.kind = .ok (c, call)) : CallFollows b t call

theorem CallFollows.of_mem {call : Handshake} (h : call ∈ b.calls) : b.CallFollows t call :=
  .kept h rfl rfl rfl

theorem callFollows_begin {call : Handshake} (kind : HandshakeKind)
    (hmove : t.move = kind.move id node port)
    (h : call ∈ (b.begin (b.client.begin id node port kind)).calls) : b.CallFollows t call := by
  cases hbegin : b.client.begin id node port kind with
  | error e =>
    rw [hbegin] at h
    exact .of_mem h
  | ok begun =>
    obtain ⟨c, new⟩ := begun
    rw [hbegin] at h
    rcases List.mem_append.1 h with hmem | hmem
    · exact .of_mem hmem
    · obtain rfl := List.mem_singleton.1 hmem
      obtain ⟨-, rfl, -⟩ := begun_of_ok hbegin
      exact .begun hmove hbegin

theorem callFollows_wake {call : Handshake} {place : Nat}
    (h : call ∈ (b.wake place t.now t.refuse).1.calls) : b.CallFollows t call := by
  unfold wake at h
  cases hcall : b.calls[place]? with
  | none =>
    rw [hcall] at h
    exact .of_mem h
  | some before =>
    obtain ⟨-, -, -, hwoken⟩ := b.client.woken_advanceFrom before t.now 0 t.refuse
    rw [← Client.advance] at hwoken
    rw [hcall] at h
    dsimp only at h
    generalize Advance.client _ = c at hwoken h
    generalize Advance.state _ = state at hwoken h
    cases state with
    | finished r => exact .of_mem (List.mem_of_mem_eraseIdx h)
    | waiting later =>
      rcases List.mem_or_eq_of_mem_set h with hmem | rfl
      · exact .of_mem hmem
      · cases hwoken with
        | waits hsocket hkind _ hrequest =>
          exact .kept (List.mem_of_getElem? hcall) hsocket hkind hrequest

/-- **Where a call that waits comes from.** -/
theorem callFollows_step {call : Handshake} (h : call ∈ (b.step t).1.calls) :
    b.CallFollows t call := by
  cases hmove : t.move with
  | openSocket port =>
    rw [step, hmove] at h
    dsimp only at h
    split at h <;> exact .of_mem h
  | close j =>
    rw [step, hmove] at h
    dsimp only at h
    split at h
    · exact .of_mem h
    · exact .of_mem (List.mem_filter.1 h).1
  | connect j node port =>
    rw [Client.step_begin .connect node port hmove] at h
    exact callFollows_begin .connect hmove h
  | disconnect j =>
    rw [Client.step_begin .disconnect 0 0 hmove] at h
    exact callFollows_begin .disconnect hmove h
  | wake place =>
    rw [step, hmove] at h
    exact callFollows_wake h
  | send j data =>
    rw [step, hmove] at h
    exact .of_mem h
  | handle g =>
    rw [step, hmove] at h
    exact .of_mem h
  | timer j =>
    rw [step, hmove] at h
    exact .of_mem h
  | linkLost =>
    rw [step, hmove] at h
    exact .of_mem h

/-- A socket that is being disconnected goes on to be so, or is closed, unless it is connected
again. -/
theorem status_of_leaving (hbefore : ∀ st, b.Leaving id → b.client.statusAt id = some st →
      st = .finWait ∨ st = .closed)
    (hconnect : ∀ node port, t.move = .connect id node port →
      b.client.statusAt id = some .closed → ¬ b.Leaving id)
    (hleaving : (b.step t).1.Leaving id) (hs' : (b.step t).1.client.statusAt id = some st') :
    st' = .finWait ∨ st' = .closed := by
  obtain ⟨call, hmem, rfl, hkind⟩ := hleaving
  cases callFollows_step hmem with
  | kept hwaited hsocket hkind' =>
    have hleaving : b.Leaving call.socket := ⟨_, hwaited, hsocket.symm, hkind'.symm.trans hkind⟩
    cases hs : b.client.statusAt call.socket with
    | none => exact .inr (status_of_fresh hs hs')
    | some st =>
      have hst := hbefore st hleaving hs
      rcases status_step (fun _ => hst) hs hs' with rfl | hchange
      · exact hst
      · cases hchange with
        | connects hmove => exact absurd hleaving (hconnect _ _ hmove hs)
        | granted => rcases hst with hst | hst <;> cases hst
        | disconnects => exact .inl rfl
        | confirmed => exact .inr rfl
        | disconnected => exact .inr rfl
        | gaveUp => exact .inr rfl
        | lost => exact .inr rfl
  | begun hmove hbegin =>
    rw [hkind] at hmove hbegin
    obtain ⟨hsocket, -, -, hneeded, x, hx, hc⟩ := begun_of_ok hbegin
    rw [Client.step_begin _ _ _ hmove, hbegin] at hs'
    dsimp only [begin] at hs'
    rw [hc, hsocket, Client.statusAt_set, if_pos rfl, hneeded] at hs'
    exact .inl ((Option.some.inj hs').symm.trans hx)

namespace Lawful

/-- **A turn keeps the invariant**, if no call is made on a socket on which another one waits. -/
theorem step (h : b.Lawful) (hcalls : ∀ id ∈ t.move.socket?, ¬ b.Busy id) :
    (b.step t).1.Lawful where
  statuses := fun id st' hs' => by
    cases hs : b.client.statusAt id with
    | none =>
      rw [status_of_fresh hs hs']
      exact List.mem_cons_self ..
    | some st =>
      rcases status_step (fun hleaving => h.leaving _ _ hleaving hs) hs hs' with rfl | hchange
      · exact h.statuses id st' hs
      · cases hchange <;> simp
  leaving := fun id _ => status_of_leaving (h.leaving id) fun node port hmove _ hleaving => by
    -- no call to connect begins while the call to disconnect waits
    refine hcalls id ?_ hleaving.busy
    rw [hmove]
    rfl
  requests := fun call hmem => by
    cases callFollows_step hmem with
    | kept hbefore _ _ hrequest =>
      rw [hrequest]
      exact h.requests _ hbefore
    | begun _ hbegin => exact (begun_of_ok hbegin).2.2.1

end Lawful

end Steps

theorem lawful_run (h : b.Lawful) (hsequential : b.Sequential turns) : (b.run turns).Lawful := by
  induction turns generalizing b with
  | nil => exact h
  | cons t turns ih => exact ih (h.step hsequential.1) hsequential.2

/-! ### Connections -/

variable {before after : List ClientTurn} {begins : ClientTurn} {node : NodeId} {port : UInt32}
  {g : Segment} {s : Socket ClientConnection}

/-- A connection of a socket to a port of a node has been open for some turns: it was begun by a
call to connect the socket when it was closed, and since then the socket has not been closed. -/
structure OpenFor (b : BusyClient) (before : List ClientTurn) (begins : ClientTurn)
    (after : List ClientTurn) (id : SocketId) (node : NodeId) (port : UInt32) : Prop where
  move_eq : begins.move = .connect id node port
  closed : (b.run before).client.statusAt id = some .closed
  since : ∀ front, front <+: after → ∃ st,
    (b.run (before ++ begins :: front)).client.statusAt id = some st ∧ st ≠ .closed

/-- A connection goes on while its socket is not closed. -/
theorem OpenFor.concat (h : b.OpenFor before begins after id node port)
    (hs : ((b.run (before ++ begins :: after)).step t).1.client.sockets.socket? id = some s)
    (hopen : s.state.status ≠ .closed) : b.OpenFor before begins (after ++ [t]) id node port where
  move_eq := h.move_eq
  closed := h.closed
  since := fun front hfront => by
    rcases List.prefix_concat_iff.1 hfront with rfl | hfront
    · refine ⟨s.state.status, ?_, hopen⟩
      rw [← List.cons_append, ← List.append_assoc, run_concat]
      exact Client.statusAt_of_socket? hs
    · exact h.since front hfront

/-- A segment for a node was queued in a connection of a socket to that node and the port of the
segment, by a call to send, and the connection has been open since. -/
def Carries (b : BusyClient) (turns : List ClientTurn) (id : SocketId) (node : NodeId)
    (g : Segment) : Prop :=
  ∃ before begins between sends after data s,
    turns = before ++ begins :: (between ++ sends :: after) ∧
    b.OpenFor before begins (between ++ sends :: after) id node g.destPort ∧
    sends.move = .send id data ∧
    (b.run (before ++ begins :: between)).client.sockets.socket? id = some s ∧
    s.state.status = .connected ∧
    g ∈ (segmentsOf s.port g.destPort s.state.nextSeq
      (Bytes.chunks b.client.settings.maxSegment data)).1

theorem Carries.concat (h : b.Carries turns id node g)
    (hs : ((b.run turns).step t).1.client.sockets.socket? id = some s)
    (hopen : s.state.status ≠ .closed) : b.Carries (turns ++ [t]) id node g := by
  obtain ⟨before, begins, between, sends, after, data, s₀, rfl, hconnection, hqueued⟩ := h
  refine ⟨before, begins, between, sends, after ++ [t], data, s₀, by simp, ?_, hqueued⟩
  have hlonger := hconnection.concat hs hopen
  rwa [List.append_assoc, List.cons_append] at hlonger

/-- What a connection has to send belongs to it: it was begun, and it carries what is queued. -/
structure Owned (b : BusyClient) (turns : List ClientTurn) (id : SocketId)
    (x : ClientConnection) : Prop where
  opened : x.status ≠ .closed → ∃ before begins after, turns = before ++ begins :: after ∧
    b.OpenFor before begins after id x.serverNode x.serverPort
  queued : x.status ≠ .closed → ∀ g ∈ x.buffer.segments,
    g.destPort = x.serverPort ∧ b.Carries turns id x.serverNode g

namespace Owned

theorem of_closed {x : ClientConnection} (h : x.status = .closed) : b.Owned turns id x where
  opened := fun hopen => absurd h hopen
  queued := fun hopen => absurd h hopen

/-- A connection goes on, without anything new to send. -/
theorem followed {x : ClientConnection} (h : b.Owned turns id x)
    (hstatus : x.status = .closed → s.state.status = .closed)
    (hs : ((b.run turns).step t).1.client.sockets.socket? id = some s)
    (hnode : s.state.serverNode = x.serverNode) (hport : s.state.serverPort = x.serverPort)
    (hsub : s.state.buffer.segments ⊆ x.buffer.segments) : b.Owned (turns ++ [t]) id s.state where
  opened := fun hopen' => by
    obtain ⟨before, begins, after, rfl, hconnection⟩ := h.opened (mt hstatus hopen')
    rw [hnode, hport]
    exact ⟨before, begins, after ++ [t], by simp, hconnection.concat hs hopen'⟩
  queued := fun hopen' g hg => by
    obtain ⟨hdest, hcarries⟩ := h.queued (mt hstatus hopen') g (hsub hg)
    rw [hnode, hport]
    exact ⟨hdest, hcarries.concat hs hopen'⟩

/-- Bytes are queued. -/
theorem sent {data : Bytes} (h : b.Owned turns id s.state)
    (hs : (b.run turns).client.sockets.socket? id = some s) (hmove : t.move = .send id data)
    (hconnected : s.state.status = .connected) {s' : Socket ClientConnection}
    (hs' : ((b.run turns).step t).1.client.sockets.socket? id = some s')
    (hstatus : s'.state.status = .connected)
    (hnode : s'.state.serverNode = s.state.serverNode)
    (hport : s'.state.serverPort = s.state.serverPort)
    (hqueue : s'.state.buffer.segments =
      (s.state.enqueue s.port b.client.settings.maxSegment data).buffer.segments) :
    b.Owned (turns ++ [t]) id s'.state := by
  have hopen : s.state.status ≠ .closed := by
    rw [hconnected]
    decide
  have hopen' : s'.state.status ≠ .closed := by
    rw [hstatus]
    decide
  obtain ⟨before, begins, after, hsplit, hconnection⟩ := h.opened hopen
  have hlonger : b.OpenFor before begins (after ++ [t]) id s.state.serverNode s.state.serverPort :=
    OpenFor.concat hconnection (hsplit ▸ hs') hopen'
  constructor
  · intro _
    rw [hnode, hport]
    exact ⟨before, begins, after ++ [t], by simp [hsplit], hlonger⟩
  · intro _ g hg
    rw [hqueue, ClientConnection.segments_enqueue, List.mem_append] at hg
    rw [hnode, hport]
    rcases hg with hold | hnew
    · obtain ⟨hdest, hcarries⟩ := h.queued hopen g hold
      exact ⟨hdest, hcarries.concat hs' hopen'⟩
    · have hdest : g.destPort = s.state.serverPort := by
        obtain ⟨front, piece, back, -, rfl⟩ := (mem_segmentsOf_iff _ _).1 hnew
        rfl
      rw [← hdest] at hnew hlonger
      exact ⟨hdest, before, begins, after, t, [], data, s, by simp [hsplit], hlonger, hmove,
        hsplit ▸ hs, hconnected, hnew⟩

/-- **A turn keeps what is queued with its connection**, if nothing is left when a connection
begins. -/
theorem step (h : ∀ s, (b.run turns).client.sockets.socket? id = some s → b.Owned turns id s.state)
    (hleft : ∀ node port s, t.move = .connect id node port →
      (b.run turns).client.sockets.socket? id = some s → s.state.status = .closed →
        s.state.buffer.isEmpty = true)
    (hs' : ((b.run turns).step t).1.client.sockets.socket? id = some s) :
    b.Owned (turns ++ [t]) id s.state := by
  cases socket?_step hs' with
  | fresh => exact .of_closed rfl
  | ended => exact .of_closed rfl
  | kept hs => exact (h _ hs).followed (fun hclosed => hclosed) hs' rfl rfl (List.Subset.refl _)
  | @shifted s₀ x sent hs hshift =>
    have hbefore := h s₀ hs
    cases hshift with
    | asked hmove hclosed =>
      -- the connection begins with an empty queue
      have hnone := SendBuffer.segments_eq_nil (hleft _ _ s₀ hmove hs hclosed)
      refine ⟨fun _ => ⟨turns, t, [], rfl, hmove, ?_, fun front hfront => ?_⟩, fun _ g hg => ?_⟩
      · rw [Client.statusAt_of_socket? hs, hclosed]
      · rw [List.prefix_nil.1 hfront, run_concat]
        exact ⟨_, Client.statusAt_of_socket? hs', by simp⟩
      · rw [hnone] at hg
        cases hg
    | granted hwaits =>
      refine hbefore.followed (fun hclosed => ?_) hs' rfl rfl (List.Subset.refl _)
      cases hwaits.symm.trans hclosed
    | @sent data hmove hconnected =>
      rw [settings_run] at hs' ⊢
      have hsame := ClientConnection.sameStream_withTimer
        (s₀.state.enqueue s₀.port b.client.settings.maxSegment data)
      refine hbefore.sent hs hmove hconnected hs' ?_ ?_ ?_ ?_
      · exact hsame.status_eq.trans hconnected
      · exact ClientConnection.serverNode_withTimer _
      · exact hsame.serverPort_eq
      · exact (ClientConnection.segments_transmit _ _ _ _).trans hsame.segments_eq
    | acknowledged _ _ hconnected =>
      refine hbefore.followed (fun hclosed => ?_) hs' rfl rfl ?_
      · cases hconnected.symm.trans hclosed
      · rw [ClientConnection.segments_transmit]
        exact SendBuffer.subset_segments_of_acknowledge _ _
    | resent =>
      refine hbefore.followed (fun hclosed => hclosed) hs' rfl rfl fun g hg => ?_
      rwa [SendBuffer.segments_retransmit] at hg
    | stopped => exact hbefore.followed (fun hclosed => hclosed) hs' rfl rfl (List.Subset.refl _)
    | leaving _ hconnected =>
      refine hbefore.followed (fun hclosed => ?_) hs' rfl rfl (List.Subset.refl _)
      cases hconnected.symm.trans hclosed
    | confirmed => exact .of_closed rfl
    | called => exact hbefore.followed (fun hclosed => hclosed) hs' rfl rfl (List.Subset.refl _)
    | gaveUp => exact .of_closed rfl
    | left => exact .of_closed rfl

end Owned

/-- A socket that is closed, and on which no call waits, has nothing to send. -/
theorem isEmpty_of_idle
    (hstart : ∀ id s, b.client.sockets.socket? id = some s → b.Tended id s.state)
    (hsequential : b.Sequential turns) (hs : (b.run turns).client.sockets.socket? id = some s)
    (hidle : s.state.status = .synSent ∨ s.state.status = .closed ∧ ¬ (b.run turns).Busy id) :
    s.state.buffer.isEmpty = true := by
  have htended := tended_run hstart hsequential.orderly id s hs
  rcases hidle with hwaits | ⟨hclosed, hidle⟩
  · exact htended.opening hwaits
  · exact (htended.ended hclosed).resolve_right (mt Leaving.busy hidle)

/-- **What is queued after a run belongs to its connection.** -/
theorem owned_run (hstart : ∀ id, b.client.sockets.socket? id = none)
    (hsequential : b.Sequential turns) :
    ∀ id s, (b.run turns).client.sockets.socket? id = some s → b.Owned turns id s.state := by
  have htended : ∀ id s, b.client.sockets.socket? id = some s → b.Tended id s.state :=
    fun id s hs => by cases (hstart id).symm.trans hs
  induction turns using List.reverseRecOn with
  | nil => exact fun id s hs => by cases (hstart id).symm.trans hs
  | append_singleton turns t ih =>
    obtain ⟨hbefore, hcalls⟩ := sequential_concat hsequential
    intro id s hs
    rw [run_concat] at hs
    refine Owned.step (ih hbefore id) (fun node port s₀ hmove hs₀ hclosed => ?_) hs
    refine isEmpty_of_idle htended hbefore hs₀ (.inr ⟨hclosed, hcalls id ?_⟩)
    rw [hmove]
    rfl

/-- What a shift of a connection sends, apart from requests, is queued in it. -/
theorem Shift.queued {x : ClientConnection} {sent : Outgoing} (h : b.Shift t id s x sent)
    (hrequests : ∀ call ∈ b.calls, call.request.kind ≠ .data) (hg : (node, g) ∈ sent)
    (hk : g.kind = .data) :
    node = x.serverNode ∧ g ∈ x.buffer.segments ∧ x.status = .connected := by
  have hrequest : ∀ {place n : Nat} {call : Handshake}, b.calls[place]? = some call →
      (node, g) ∉ List.replicate n (call.node, call.request) := by
    intro place n call hcall hmem
    obtain ⟨-, heq⟩ := List.mem_replicate.1 hmem
    cases heq
    exact hrequests call (List.mem_of_getElem? hcall) hk
  cases h with
  | asked => cases hg
  | granted => cases hg
  | @sent data _ hconnected =>
    have hsame := ClientConnection.sameStream_withTimer
      (s.state.enqueue s.port b.client.settings.maxSegment data)
    obtain ⟨hnode, hqueued⟩ := ClientConnection.queued_of_transmit hg
    exact ⟨hnode, hqueued, hsame.status_eq.trans hconnected⟩
  | acknowledged _ _ hconnected =>
    obtain ⟨hnode, hqueued⟩ := ClientConnection.queued_of_transmit hg
    exact ⟨hnode, hqueued, hconnected⟩
  | resent hconnected =>
    obtain ⟨g', hg', heq⟩ := List.mem_map.1 hg
    cases heq
    refine ⟨rfl, ?_, hconnected⟩
    rw [SendBuffer.segments_retransmit]
    exact SendBuffer.subset_segments_of_retransmit _ _ _ hg'
  | stopped => cases hg
  | leaving => cases hg
  | confirmed => cases hg
  | called _ hcall => exact absurd hg (hrequest hcall)
  | gaveUp _ hcall => exact absurd hg (hrequest hcall)
  | left _ hcall => exact absurd hg (hrequest hcall)

/-- **What carries bytes belongs to a connection that is open**, whatever makes the client send. -/
theorem carries_step
    (howned : ∀ id s, ((b.run turns).step t).1.client.sockets.socket? id = some s →
      b.Owned (turns ++ [t]) id s.state)
    (hrequests : ∀ call ∈ (b.run turns).calls, call.request.kind ≠ .data)
    (hg : (node, g) ∈ ((b.run turns).step t).2) (hk : g.kind = .data) :
    ∃ id, b.Carries (turns ++ [t]) id node g := by
  have hturned := (b.run turns).step_cases t
  generalize hc : ((b.run turns).step t).1.client = c at hturned howned
  generalize ((b.run turns).step t).2 = sent at hturned hg
  cases hturned with
  | idle => cases hg
  | @shifted id s x sent hs hshift =>
    obtain ⟨rfl, hqueued, hconnected⟩ := hshift.queued hrequests hg hk
    have hs' := Client.socket?_set_self hs x
    refine ⟨id, ((howned id _ hs').queued ?_ g hqueued).2⟩
    dsimp only
    rw [hconnected]
    decide
  | opened => cases hg
  | closed => cases hg
  | lost => cases hg

/-! ### The life of a socket -/

/-- **The life of a socket of a client.**  After any turns of a client in which no call is made on a
socket while another one still waits on it, a socket is closed, waits for a connection, is
connected, or waits for the end of its connection.  In the next turn it is new and closed, or it
stays in its state, or its state changes for one of the causes: a call to connect or to disconnect
begins or returns; the answer to its request arrives; the link is lost.  A socket that waits for a
connection, or is closed with no call waiting on it, has nothing to send.  Every segment with bytes
that is sent was queued by a call to send in a connection of its socket that is still open, and goes
to the node and the port of that connection. -/
theorem connection_lifecycle {settings : Settings} {c : Client}
    (hstart : Client.start settings = .ok c) (turns : List ClientTurn) (t : ClientTurn)
    (hsequential : Sequential { client := c } (turns ++ [t])) :
    (∀ id st, (run { client := c } turns).client.statusAt id = some st →
      st ∈ [.closed, .synSent, .connected, .finWait]) ∧
    (∀ id st', ((run { client := c } turns).step t).1.client.statusAt id = some st' →
      (run { client := c } turns).client.statusAt id = none ∧ st' = .closed ∨
      ∃ st, (run { client := c } turns).client.statusAt id = some st ∧
        (st' = st ∨ (run { client := c } turns).Changes t id st st')) ∧
    (∀ id s, (run { client := c } turns).client.sockets.socket? id = some s →
      s.state.status = .synSent ∨
        s.state.status = .closed ∧ ¬ (run { client := c } turns).Busy id →
      s.state.buffer.inFlight = [] ∧ s.state.buffer.waiting = []) ∧
    ∀ node g, (node, g) ∈ ((run { client := c } turns).step t).2 → g.kind = .data →
      ∃ id, Carries { client := c } (turns ++ [t]) id node g := by
  obtain ⟨-, rfl⟩ := Client.start_eq_ok hstart
  have hnone : ∀ id, (SocketTable.free settings.maxConnections :
      SocketTable ClientConnection).socket? id = none := SocketTable.socket?_free _
  obtain ⟨hbefore, -⟩ := sequential_concat hsequential
  have hlawful : (run { client := ⟨settings, .free settings.maxConnections⟩ } turns).Lawful := by
    refine lawful_run ⟨fun id st hs => ?_, fun id st hleaving => ?_, nofun⟩ hbefore
    · rw [Client.statusAt, hnone] at hs
      cases hs
    · obtain ⟨call, hmem, -⟩ := hleaving
      cases hmem
  refine ⟨hlawful.statuses, fun id st' hs' => ?_, fun id s hs hidle => ?_, fun node g hg hk => ?_⟩
  · cases hs : (run { client := ⟨settings, .free _⟩ } turns).client.statusAt id with
    | none => exact .inl ⟨rfl, status_of_fresh hs hs'⟩
    | some st =>
      exact .inr ⟨st, rfl, status_step (fun hleaving => hlawful.leaving id st hleaving hs) hs hs'⟩
  · have hempty :=
      isEmpty_of_idle (fun id s hs => by cases (hnone id).symm.trans hs) hbefore hs hidle
    rwa [SendBuffer.isEmpty, Bool.and_eq_true, List.isEmpty_iff, List.isEmpty_iff] at hempty
  · refine carries_step (fun id s hs => ?_) hlawful.requests hg hk
    rw [← run_concat] at hs
    exact owned_run hnone hsequential id s hs

/-- Port 7 of a client is connected to port 9 of node 1 and sends a byte, which is not acknowledged
when it disconnects.  Then it is connected to port 8 of node 2 and sends another byte, while the
timer of the first connection still waits for its next look. -/
def twoConnections : List ClientTurn :=
  [{ move := .openSocket 7 }, { move := .connect 0 1 9 }, { move := .wake 0 },
    { move := .handle ((Segment.synOf 7 9 0).reply .synAck 1) }, { move := .wake 0 },
    { move := .send 0 [5], now := 1 }, { move := .disconnect 0 }, { move := .wake 0, now := 2 },
    { move := .handle ((Segment.finOf 7 9 2).reply .finAck 1), now := 3 },
    { move := .wake 0, now := 3 }, { move := .connect 0 2 8 }, { move := .wake 0, now := 4 },
    { move := .handle ((Segment.synOf 7 8 3).reply .synAck 4), now := 5 },
    { move := .wake 0, now := 5 }, { move := .send 0 [6], now := 6 }]

/-- When the timer looks at the socket, it sends the second byte, which belongs to the second
connection, and not the first one. -/
theorem connection_lifecycle_twoConnections :
    Client.start {} = .ok ⟨{}, .free 10⟩ ∧
      Sequential { client := ⟨{}, .free 10⟩ }
        (twoConnections ++ [{ move := .timer 0, now := 106 }]) ∧
      ((run { client := ⟨{}, .free 10⟩ } twoConnections).step { move := .timer 0, now := 106 }).2 =
        [(2, Segment.dataOf 7 8 4 [6])] ∧
      ∃ id, Carries { client := ⟨{}, .free 10⟩ }
        (twoConnections ++ [{ move := .timer 0, now := 106 }]) id 2 (Segment.dataOf 7 8 4 [6]) := by
  have hstart : Client.start {} = .ok ⟨{}, .free 10⟩ := rfl
  have hsequential : Sequential { client := ⟨{}, .free 10⟩ }
      (twoConnections ++ [{ move := .timer 0, now := 106 }]) := by decide +kernel
  have hsent : ((run { client := ⟨{}, .free 10⟩ } twoConnections).step
      { move := .timer 0, now := 106 }).2 = [(2, Segment.dataOf 7 8 4 [6])] := by decide +kernel
  obtain ⟨-, -, -, hcarries⟩ := connection_lifecycle hstart twoConnections _ hsequential
  exact ⟨hstart, hsequential, hsent, hcarries 2 _ (hsent ▸ List.mem_cons_self ..) rfl⟩

end BusyClient

end OverlayStack.Transport
