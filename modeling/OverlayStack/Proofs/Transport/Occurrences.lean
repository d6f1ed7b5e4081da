import OverlayStack.Proofs.Transport.Endpoints

/-!
# What happens to the sockets of a client

While one call of a client waits, other calls, timers and segments change the client, and the link
may be lost.  A socket that waits for the answer to a request to disconnect then goes on to wait,
until the answer arrives or the link is lost, and a socket without a connection stays without one.

## Main definitions

* `Client.statusAt` — the state of the connection of a socket.
* `Client.Occurrence`, `Client.after` — what can happen to a client, and the client after it.
* `Client.Confirms`, `Client.Releases` — what makes a socket stop waiting.

## Main results

* `Client.handle_cases` — what a segment does to the state of a socket.
* `Client.statusAt_after_of_closed`, `Client.statusAt_after_of_finWait` — what happens to a socket.
-/

namespace OverlayStack.Transport

/-- A socket keeps its place when another one is opened. -/
theorem SocketTable.socket?_openSocket {σ : Type} {t t' : SocketTable σ} {port : UInt32} {start : σ}
    {id j : SocketId} {s : Socket σ} (h : t.openSocket port start = .ok (j, t'))
    (hs : t.socket? id = some s) : t'.socket? id = some s := by
  unfold openSocket at h
  split at h
  · cases h
  · split at h
    · cases h
    · next place hplace =>
      cases h
      obtain ⟨hlt, hfree, -⟩ := List.findIdx?_eq_some_iff_getElem.1 hplace
      have hne : j ≠ id := by
        rintro rfl
        rw [socket?, List.getElem?_eq_getElem hlt, Option.isNone_iff_eq_none.1 hfree] at hs
        cases hs
      rw [socket?, List.getElem?_set_ne hne]
      exact hs

namespace Client

variable {c : Client} {id : SocketId}

/-! ### The states of sockets -/

/-- The state of the connection of a socket, if there is such a socket. -/
def statusAt (c : Client) (id : SocketId) : Option Status :=
  (c.sockets.socket? id).map (·.state.status)

theorem statusAt_eq_some_iff {st : Status} :
    c.statusAt id = some st ↔ ∃ s, c.sockets.socket? id = some s ∧ s.state.status = st :=
  Option.map_eq_some_iff

theorem statusAt_of_socket? {s : Socket ClientConnection} (h : c.sockets.socket? id = some s) :
    c.statusAt id = some s.state.status :=
  statusAt_eq_some_iff.2 ⟨s, h, rfl⟩

theorem statusAt_set (c : Client) (j : SocketId) (x : ClientConnection) :
    (c.set j x).statusAt id = if id = j then (c.statusAt id).map fun _ => x.status
      else c.statusAt id := by
  unfold statusAt set
  dsimp only
  rw [SocketTable.socket?_set]
  split
  · rw [Option.map_map, Option.map_map]
    rfl
  · rfl

theorem statusAt_set_of_ne {j : SocketId} (h : j ≠ id) (x : ClientConnection) :
    (c.set j x).statusAt id = c.statusAt id := by
  rw [statusAt_set, if_neg h.symm]

/-- A change that does not touch the state of the connection. -/
theorem statusAt_set_of_eq {j : SocketId} {s : Socket ClientConnection} {x : ClientConnection}
    (hs : c.sockets.socket? j = some s) (hx : x.status = s.state.status) :
    (c.set j x).statusAt id = c.statusAt id := by
  rw [statusAt_set]
  split
  · next hid =>
    rw [hid, statusAt_of_socket? hs, hx]
    rfl
  · rfl

theorem statusAt_linkLost (c : Client) :
    c.linkLost.statusAt id = (c.statusAt id).map fun _ => .closed := by
  unfold statusAt linkLost
  dsimp only
  rw [SocketTable.socket?_map, Option.map_map, Option.map_map]
  rfl

theorem socket?_of_require {s : Socket ClientConnection} (h : c.sockets.require id = .ok s) :
    c.sockets.socket? id = some s := by
  unfold SocketTable.require at h
  split at h
  · cases h
  · next s' hs =>
    cases h
    exact hs

/-- A segment belongs to a socket that has a connection. -/
theorem socket?_of_lookup {g : Segment} {s : Socket ClientConnection}
    (h : c.lookup g = some (id, s)) :
    c.sockets.socket? id = some s ∧ s.state.status ≠ .closed := by
  unfold lookup SocketTable.find? at h
  refine ⟨SocketTable.mem_sockets_iff.1 (List.mem_of_find?_eq_some h), ?_⟩
  have hp := List.find?_some h
  simp only [Bool.and_eq_true, bne_iff_ne] at hp
  exact hp.1.2

/-! ### Operations that do not end connections -/

theorem statusAt_pollTimer (c : Client) (j : SocketId) (now : Nat) (refuse : Refusal Error) :
    (c.pollTimer j now refuse).state.statusAt id = c.statusAt id := by
  unfold pollTimer
  split
  · rfl
  · next s hs =>
    split
    · rfl
    · split
      · exact statusAt_set_of_eq hs rfl
      · split
        · exact statusAt_set_of_eq hs rfl
        · rfl

theorem statusAt_send (c : Client) (j : SocketId) (data : Bytes) (now : Nat)
    (refuse : Refusal Error) : (c.send j data now refuse).state.statusAt id = c.statusAt id := by
  unfold send
  split
  · rfl
  · next s hs =>
    split
    · exact statusAt_set_of_eq (socket?_of_require hs)
        (ClientConnection.sameStream_withTimer _).status_eq
    · rfl

/-- A segment confirms the end of the connection of a socket. -/
def Confirms (c : Client) (id : SocketId) (g : Segment) : Prop :=
  ∃ s, c.lookup g = some (id, s) ∧ s.state.status = .finWait ∧ g.kind = .finAck

/-- A segment ends the connection of a socket, grants it, or leaves its state alone. -/
theorem handle_cases (c : Client) (id : SocketId) (g : Segment) (now : Nat)
    (refuse : Refusal Error) :
    c.Confirms id g ∧ (c.handle g now refuse).state.statusAt id = some .closed ∨
      c.statusAt id = some .synSent ∧ ¬ c.Confirms id g ∨
      (c.handle g now refuse).state.statusAt id = c.statusAt id ∧ ¬ c.Confirms id g := by
  have hstatus : c.Confirms id g → c.statusAt id = some .finWait := by
    rintro ⟨s, hs, hstatus, -⟩
    rw [statusAt_of_socket? (socket?_of_lookup hs).1, hstatus]
  unfold handle
  cases hfound : c.lookup g with
  | none => exact .inr (.inr ⟨rfl, fun ⟨s, hs, _⟩ => by rw [hfound] at hs; cases hs⟩)
  | some found =>
    obtain ⟨j, s⟩ := found
    obtain ⟨hs, hopen⟩ := socket?_of_lookup hfound
    by_cases hj : j = id
    · subst hj
      have hat := statusAt_of_socket? hs
      by_cases hack : s.state.status = .finWait ∧ g.kind = .finAck
      · refine .inl ⟨⟨s, hfound, hack⟩, ?_⟩
        dsimp only
        rw [hack.1, hack.2]
        dsimp only [Effect.quiet]
        rw [statusAt_set, if_pos rfl, hat]
        rfl
      · have hnot : ¬ c.Confirms j g := by
          rintro ⟨s', hs', hack'⟩
          rw [hfound] at hs'
          cases hs'
          exact hack hack'
        refine .inr ?_
        dsimp only
        split
        · next hsyn _ => exact .inl ⟨by rw [hat, hsyn], hnot⟩
        · next hfin hkind => exact absurd ⟨hfin, hkind⟩ hack
        · split
          · exact .inr ⟨statusAt_set_of_eq hs rfl, hnot⟩
          · exact .inr ⟨statusAt_set_of_eq hs rfl, hnot⟩
        · exact .inr ⟨rfl, hnot⟩
        · exact .inr ⟨rfl, hnot⟩
        · exact .inr ⟨rfl, hnot⟩
    -- a segment for another socket
    · have hnot : ¬ c.Confirms id g := by
        rintro ⟨s', hs', -⟩
        rw [hfound] at hs'
        cases hs'
        exact hj rfl
      refine .inr (.inr ⟨?_, hnot⟩)
      dsimp only
      split
      · exact statusAt_set_of_ne hj _
      · exact statusAt_set_of_ne hj _
      · split
        · exact statusAt_set_of_ne hj _
        · exact statusAt_set_of_ne hj _
      · rfl
      · rfl
      · rfl

/-- A call changes nothing but its own socket. -/
theorem client_advanceFrom (c : Client) (call : Handshake) (now n : Nat) (refuse : Refusal Error) :
    (c.advanceFrom call now refuse n).client = c ∨
      ∃ x, (c.advanceFrom call now refuse n).client = c.set call.socket x := by
  have hfinish : ∀ (call : Handshake) (timedOut : Bool), (c.finish call timedOut).1 = c ∨
      ∃ x, (c.finish call timedOut).1 = c.set call.socket x := by
    intro call timedOut
    unfold finish
    cases call.kind with
    | connect =>
      dsimp only
      split
      · exact .inr ⟨_, rfl⟩
      · split <;> exact .inl rfl
    | disconnect => exact .inr ⟨_, rfl⟩
  induction call, n using advanceFrom.induct c now refuse with
  | case1 call n hw htime hmax c' result hend =>
    rw [advanceFrom, if_pos hw, if_pos htime, dif_pos hmax]
    exact hfinish call true
  | case2 call n hw htime hmax e hrefuse =>
    rw [advanceFrom, if_pos hw, if_pos htime, dif_neg hmax, hrefuse]
    dsimp only [refused]
    cases call.kind <;> exact .inr ⟨_, rfl⟩
  | case3 call n hw htime hmax hrefuse ih =>
    rw [advanceFrom, if_pos hw, if_pos htime, dif_neg hmax, hrefuse]
    exact ih
  | case4 call n hw htime =>
    rw [advanceFrom, if_pos hw, if_neg htime]
    exact .inl rfl
  | case5 call n hw c' result hend =>
    rw [advanceFrom, if_neg hw]
    exact hfinish call false

/-! ### What can happen -/

/-- What can happen to a client while one of its calls waits. -/
inductive Occurrence where
  /-- The call is advanced. -/
  | wake (now : Nat) (refuse : Refusal Error)
  /-- A segment arrives. -/
  | handle (g : Segment) (now : Nat) (refuse : Refusal Error)
  /-- The link is lost. -/
  | linkLost
  /-- A timer looks at its socket. -/
  | timer (j : SocketId) (now : Nat) (refuse : Refusal Error)
  /-- Bytes are sent. -/
  | send (j : SocketId) (data : Bytes) (now : Nat) (refuse : Refusal Error)
  /-- A socket is opened. -/
  | openSocket (port : UInt32)
  /-- A socket is closed. -/
  | close (j : SocketId)
  /-- Another call to connect begins. -/
  | connect (j : SocketId) (node : NodeId) (port : UInt32)
  /-- Another call to disconnect begins. -/
  | disconnect (j : SocketId)
  /-- Another call is advanced. -/
  | advance (other : Handshake) (now : Nat) (refuse : Refusal Error)

/-- The client after something other than the call that waits. -/
def after (c : Client) : Occurrence → Client
  | .wake _ _ => c
  | .handle g now refuse => (c.handle g now refuse).state
  | .linkLost => c.linkLost
  | .timer j now refuse => (c.pollTimer j now refuse).state
  | .send j data now refuse => (c.send j data now refuse).state
  | .openSocket port => ((c.openSocket port).map (·.2)).toOption.getD c
  | .close j => (c.close j).toOption.getD c
  | .connect j node port => ((c.connect j node port).map (·.1)).toOption.getD c
  | .disconnect j => ((c.disconnect j).map (·.1)).toOption.getD c
  | .advance other now refuse => (c.advance other now refuse).client

/-- What happens is no other call on a socket that connects, disconnects or closes it. -/
def Occurrence.Spares (id : SocketId) : Occurrence → Prop
  | .close j | .connect j _ _ | .disconnect j => j ≠ id
  | .advance other _ _ => other.socket ≠ id
  | _ => True

/-- What happens makes a socket that waits for the answer to a request to disconnect stop waiting:
the answer arrives, or the link is lost. -/
def Releases (c : Client) (id : SocketId) (o : Occurrence) : Prop :=
  c.statusAt id = some .finWait ∧
    ((∃ g now refuse, o = .handle g now refuse ∧ c.Confirms id g) ∨ o = .linkLost)

/-- What neither brings a segment nor loses the link changes no state of the socket. -/
theorem statusAt_after_of_ne {o : Occurrence} (h : o.Spares id)
    (hhandle : ∀ g now refuse, o ≠ .handle g now refuse) (hlost : o ≠ .linkLost) {st : Status}
    (hs : c.statusAt id = some st) : (c.after o).statusAt id = some st := by
  cases o with
  | wake now refuse => exact hs
  | handle g now refuse => exact absurd rfl (hhandle g now refuse)
  | linkLost => exact absurd rfl hlost
  | timer j now refuse => exact (statusAt_pollTimer c j now refuse).trans hs
  | send j data now refuse => exact (statusAt_send c j data now refuse).trans hs
  | openSocket port =>
    rw [after, openSocket]
    cases hopen : c.sockets.openSocket port {} with
    | error e => exact hs
    | ok opened =>
      obtain ⟨s, hsocket, rfl⟩ := statusAt_eq_some_iff.1 hs
      exact statusAt_of_socket? (c := { c with sockets := opened.2 })
        (SocketTable.socket?_openSocket hopen hsocket)
  | close j =>
    rw [after, close]
    cases c.sockets.require j with
    | error e => exact hs
    | ok s =>
      simp only [bind, Except.bind]
      split
      · refine Eq.trans ?_ hs
        show Option.map _ (SocketTable.socket? ⟨c.sockets.slots.set j none⟩ id) = _
        rw [SocketTable.socket?, List.getElem?_set_ne h]
        rfl
      · exact hs
  | connect j node port =>
    rw [after, connect]
    cases c.sockets.require j with
    | error e => exact hs
    | ok s =>
      simp only [bind, Except.bind]
      split
      · exact (statusAt_set_of_ne h _).trans hs
      · exact hs
  | disconnect j =>
    rw [after, disconnect]
    cases c.sockets.require j with
    | error e => exact hs
    | ok s =>
      simp only [bind, Except.bind]
      split
      · exact (statusAt_set_of_ne h _).trans hs
      · exact hs
  | advance other now refuse =>
    rcases c.client_advanceFrom other now 0 refuse with heq | ⟨x, heq⟩
    · rw [after, advance, heq]
      exact hs
    · rw [after, advance, heq]
      exact (statusAt_set_of_ne h x).trans hs

/-- A socket without a connection stays without one. -/
theorem statusAt_after_of_closed {o : Occurrence} (h : o.Spares id)
    (hs : c.statusAt id = some .closed) : (c.after o).statusAt id = some .closed := by
  by_cases hhandle : ∃ g now refuse, o = .handle g now refuse
  · obtain ⟨g, now, refuse, rfl⟩ := hhandle
    rcases c.handle_cases id g now refuse with ⟨-, hclosed⟩ | ⟨hsyn, -⟩ | ⟨hkeep, -⟩
    · exact hclosed
    · rw [hs] at hsyn
      cases hsyn
    · exact hkeep.trans hs
  · by_cases hlost : o = .linkLost
    · rw [hlost, after, statusAt_linkLost, hs]
      rfl
    · exact statusAt_after_of_ne h (fun g now refuse ho => hhandle ⟨g, now, refuse, ho⟩) hlost hs

/-- **A socket that waits** for the answer to a request to disconnect goes on to wait, unless it is
released. -/
theorem statusAt_after_of_finWait {o : Occurrence} (h : o.Spares id)
    (hs : c.statusAt id = some .finWait) :
    (c.after o).statusAt id = some .closed ∧ c.Releases id o ∨
      (c.after o).statusAt id = some .finWait ∧ ¬ c.Releases id o := by
  by_cases hhandle : ∃ g now refuse, o = .handle g now refuse
  · obtain ⟨g, now, refuse, rfl⟩ := hhandle
    rcases c.handle_cases id g now refuse with ⟨hg, hclosed⟩ | ⟨hsyn, -⟩ | ⟨hkeep, hg⟩
    · exact .inl ⟨hclosed, hs, .inl ⟨g, now, refuse, rfl, hg⟩⟩
    · rw [hs] at hsyn
      cases hsyn
    · refine .inr ⟨hkeep.trans hs, ?_⟩
      rintro ⟨-, ⟨g', now', refuse', heq, hg'⟩ | hlost⟩
      · cases heq
        exact hg hg'
      · cases hlost
  · by_cases hlost : o = .linkLost
    · refine .inl ⟨?_, hs, .inr hlost⟩
      rw [hlost, after, statusAt_linkLost, hs]
      rfl
    · have hhandle' := fun g now refuse ho => hhandle ⟨g, now, refuse, ho⟩
      refine .inr ⟨statusAt_after_of_ne h hhandle' hlost hs, ?_⟩
      rintro ⟨-, ⟨g, now, refuse, ho, -⟩ | ho⟩
      · exact hhandle' g now refuse ho
      · exact hlost ho

/-! ### Settings -/

/-- Nothing that happens changes the settings. -/
theorem settings_after (o : Occurrence) : (c.after o).settings = c.settings := by
  cases o with
  | wake now refuse => rfl
  | handle g now refuse =>
    rw [after, handle]
    split
    · rfl
    · split
      · rfl
      · rfl
      · dsimp only
        split <;> rfl
      · rfl
      · rfl
      · rfl
  | linkLost => rfl
  | timer j now refuse =>
    rw [after, pollTimer]
    split
    · rfl
    · split
      · rfl
      · split
        · rfl
        · split <;> rfl
  | send j data now refuse =>
    rw [after, send]
    split
    · rfl
    · split <;> rfl
  | openSocket port =>
    rw [after, openSocket]
    cases c.sockets.openSocket port {} <;> rfl
  | close j =>
    rw [after, close]
    cases c.sockets.require j with
    | error e => rfl
    | ok s =>
      simp only [bind, Except.bind]
      split <;> rfl
  | connect j node port =>
    rw [after, connect]
    cases c.sockets.require j with
    | error e => rfl
    | ok s =>
      simp only [bind, Except.bind]
      split <;> rfl
  | disconnect j =>
    rw [after, disconnect]
    cases c.sockets.require j with
    | error e => rfl
    | ok s =>
      simp only [bind, Except.bind]
      split <;> rfl
  | advance other now refuse =>
    rcases c.client_advanceFrom other now 0 refuse with heq | ⟨x, heq⟩
    · rw [after, advance, heq]
    · rw [after, advance, heq]
      rfl

end Client

end OverlayStack.Transport
