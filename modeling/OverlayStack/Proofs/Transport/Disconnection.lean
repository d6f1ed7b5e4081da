import Mathlib.Data.List.Chain
import Mathlib.Data.List.Induction
import OverlayStack.Proofs.Transport.Occurrences

/-!
# Calls to disconnect

A call to disconnect sends its request and waits for the answer.  It succeeds if the answer has
arrived when the call is advanced.  But the call only looks at whether its socket still waits, and
the loss of the link makes the socket stop waiting too: then the call succeeds without an answer.
There is no other exception.

## Main definitions

* `Client.Ended` — a socket without a connection and with nothing to send.
* `Client.Asks`, `Client.Due` — a call to disconnect, and the time for its next attempt.
* `Awaited`, `Awaited.step`, `Awaited.run` — a client with one of its calls.
* `Awaited.Stands` — the invariant of a call to disconnect.

## Main results

* `Client.advanceFrom_of_finWait` — how far a call to disconnect gets.
* `Awaited.Stands.step`, `Awaited.Stands.run` — the invariant is kept.
* `Client.disconnect_returns` — what a call to disconnect returns, and what it leaves behind.
-/

namespace OverlayStack.Transport

namespace Client

variable {c : Client} {id : SocketId}

/-! ### The call that waits -/

/-- The socket has no connection and nothing to send. -/
def Ended (c : Client) (id : SocketId) : Prop :=
  ∃ s, c.sockets.socket? id = some s ∧ s.state.status = .closed ∧ s.state.buffer.isEmpty = true

theorem Ended.statusAt_eq (h : c.Ended id) : c.statusAt id = some .closed := by
  obtain ⟨s, hs, hstatus, -⟩ := h
  rw [statusAt_of_socket? hs, hstatus]

theorem ended_set {st : Status} (h : c.statusAt id = some st) (x : ClientConnection) :
    (c.set id x.ended).Ended id := by
  obtain ⟨s, hs, -⟩ := statusAt_eq_some_iff.1 h
  refine ⟨{ s with state := x.ended }, ?_, rfl, rfl⟩
  show (c.sockets.set id x.ended).socket? id = _
  rw [SocketTable.socket?_set, if_pos rfl, hs]
  rfl

theorem status_connectionOf {call : Handshake} {st : Status}
    (h : c.statusAt call.socket = some st) : (c.connectionOf call).status = st := by
  obtain ⟨s, hs, rfl⟩ := statusAt_eq_some_iff.1 h
  rw [connectionOf, hs]
  rfl

/-- A call to disconnect a socket, with a given request. -/
structure Asks (call : Handshake) (settings : Settings) (id : SocketId) (request : Segment) :
    Prop where
  socket_eq : call.socket = id
  kind_eq : call.kind = .disconnect
  request_eq : call.request = request
  attempts_le : call.attempts ≤ settings.finAttempts

/-- It is time for the next attempt of a call to disconnect. -/
def Due (call : Handshake) (settings : Settings) (now : Nat) : Prop :=
  call.attempts = 0 ∨ settings.finTimeout ≤ now - call.lastSent

variable {call : Handshake} {request : Segment}

/-- A call to disconnect that finds its socket without a connection succeeds. -/
theorem advance_of_closed (h : Asks call c.settings id request)
    (hs : c.statusAt id = some .closed) (now : Nat) (refuse : Refusal Error) :
    (c.advance call now refuse).state = .finished (.ok ()) ∧
      (c.advance call now refuse).client.Ended id := by
  obtain ⟨rfl, hk, -, -⟩ := h
  have hw : ¬ (c.connectionOf call).status = call.kind.waitingStatus := by
    rw [status_connectionOf hs, hk]
    decide
  rw [advance, advanceFrom, if_neg hw, finish, hk]
  exact ⟨rfl, ended_set hs _⟩

/-- **A call to disconnect whose socket still waits** goes on to wait, after another attempt if it
is time for one, or fails. -/
theorem advanceFrom_of_finWait (now n : Nat) (refuse : Refusal Error)
    (h : Asks call c.settings id request) (hs : c.statusAt id = some .finWait) :
    (∃ call', (c.advanceFrom call now refuse n).state = .waiting call' ∧
        (c.advanceFrom call now refuse n).client = c ∧ Asks call' c.settings id request ∧
        (call' = call ∨ call.attempts < call'.attempts ∧ call'.lastSent = now) ∧
        (Due call c.settings now → call.attempts < call'.attempts)) ∨
      ∃ e, (c.advanceFrom call now refuse n).state = .finished (.error e) ∧
        (c.advanceFrom call now refuse n).client.Ended id ∧
        (e = .disconnectTimeout id c.settings.finAttempts ∨ ∃ n, refuse n request = some e) := by
  induction call, n using advanceFrom.induct c now refuse with
  | case1 call n hw htime hmax c' result hend =>
    -- the attempts are used up
    obtain ⟨rfl, hk, -, hle⟩ := h
    rw [hk] at hmax
    have hall : call.attempts = c.settings.finAttempts := Nat.le_antisymm hle hmax
    rw [advanceFrom, if_pos hw, if_pos htime, dif_pos (by rwa [hk]), finish, hk]
    refine .inr ⟨_, rfl, ended_set hs _, .inl ?_⟩
    rw [← hall]
  | case2 call n hw htime hmax e hrefuse =>
    -- the link takes no request
    obtain ⟨rfl, hk, rfl, -⟩ := h
    rw [advanceFrom, if_pos hw, if_pos htime, dif_neg hmax, hrefuse, refused, hk]
    exact .inr ⟨e, rfl, ended_set hs _, .inr ⟨n, hrefuse⟩⟩
  | case3 call n hw htime hmax hrefuse ih =>
    -- one more attempt
    obtain ⟨hid, hk, hreq, -⟩ := h
    have hlt : call.attempts + 1 ≤ c.settings.finAttempts := by
      rw [hk] at hmax
      exact Nat.not_le.1 hmax
    rw [advanceFrom, if_pos hw, if_pos htime, dif_neg hmax, hrefuse]
    rcases ih ⟨hid, hk, hreq, hlt⟩ with ⟨call', hstate, hclient, hasks, hmore, -⟩ | hfails
    · have hnext : call.attempts < call'.attempts ∧ call'.lastSent = now := by
        rcases hmore with rfl | ⟨hmore, hlast⟩
        · exact ⟨Nat.lt_succ_self _, rfl⟩
        · exact ⟨Nat.lt_of_succ_lt hmore, hlast⟩
      exact .inl ⟨call', hstate, hclient, hasks, .inr hnext, fun _ => hnext.1⟩
    · exact .inr hfails
  | case4 call n hw htime =>
    rw [advanceFrom, if_pos hw, if_neg htime]
    refine .inl ⟨call, rfl, rfl, h, .inl rfl, fun hdue => absurd hdue ?_⟩
    rw [h.kind_eq] at htime
    exact htime
  | case5 call n hw c' result hend =>
    refine absurd ?_ hw
    rw [h.kind_eq]
    exact status_connectionOf (h.socket_eq ▸ hs)

end Client

/-! ### Runs -/

/-- A client with one of its calls. -/
structure Awaited where
  client : Client
  /-- Where the call has got to. -/
  state : HandshakeState

namespace Awaited

/-- The client and its call after something has happened. -/
def step (w : Awaited) (o : Client.Occurrence) : Awaited :=
  match o, w.state with
  | .wake now refuse, .waiting call =>
    let r := w.client.advance call now refuse
    ⟨r.client, r.state⟩
  | o, _ => { w with client := w.client.after o }

/-- The client and its call after several things have happened. -/
def run (w : Awaited) (happened : List Client.Occurrence) : Awaited :=
  happened.foldl step w

theorem run_append (w : Awaited) (first second : List Client.Occurrence) :
    w.run (first ++ second) = (w.run first).run second :=
  List.foldl_append

theorem run_concat (w : Awaited) (happened : List Client.Occurrence) (o : Client.Occurrence) :
    w.run (happened ++ [o]) = (w.run happened).step o := by
  rw [run_append]
  rfl

theorem step_of_finished (c : Client) (result : Except Error Unit) (o : Client.Occurrence) :
    step ⟨c, .finished result⟩ o = ⟨c.after o, .finished result⟩ := by
  cases o <;> rfl

/-- What has not woken the call has left it where it was. -/
theorem step_of_ne (c : Client) (state : HandshakeState) {o : Client.Occurrence}
    (h : ∀ now refuse, o ≠ .wake now refuse) : step ⟨c, state⟩ o = ⟨c.after o, state⟩ := by
  cases o with
  | wake now refuse => exact absurd rfl (h now refuse)
  | _ => rfl

/-- Something that has happened has made the socket stop waiting. -/
def Released (w : Awaited) (id : SocketId) (happened : List Client.Occurrence) : Prop :=
  ∃ first o rest, happened = first ++ o :: rest ∧ (w.run first).client.Releases id o

variable {w : Awaited} {id : SocketId} {settings : Settings} {request : Segment}
  {happened : List Client.Occurrence} {o : Client.Occurrence}

theorem released_concat_iff :
    w.Released id (happened ++ [o]) ↔
      w.Released id happened ∨ (w.run happened).client.Releases id o := by
  constructor
  · rintro ⟨first, o', rest, hsplit, hrel⟩
    rcases List.eq_nil_or_concat rest with rfl | ⟨rest, last, rfl⟩
    · obtain ⟨rfl, heq⟩ := List.append_inj' hsplit rfl
      cases heq
      exact .inr hrel
    · rw [List.concat_eq_append, ← List.cons_append, ← List.append_assoc] at hsplit
      exact .inl ⟨first, o', rest, (List.append_inj' hsplit rfl).1, hrel⟩
  · rintro (⟨first, o', rest, rfl, hrel⟩ | hrel)
    · exact ⟨first, o', rest ++ [o], by simp, hrel⟩
    · exact ⟨happened, o, [], rfl, hrel⟩

/-- Why a call to disconnect fails: its attempts are used up, or the link has refused one. -/
def Fails (settings : Settings) (id : SocketId) (request : Segment)
    (happened : List Client.Occurrence) (e : Error) : Prop :=
  e = .disconnectTimeout id settings.finAttempts ∨
    ∃ now refuse n, .wake now refuse ∈ happened ∧ refuse n request = some e

/-- Where a call to disconnect stands after several things have happened. -/
inductive Stands (w : Awaited) (settings : Settings) (id : SocketId) (request : Segment)
    (happened : List Client.Occurrence) : Prop where
  /-- It waits for the answer. -/
  | asking {c : Client} {call : Handshake} (hrun : w.run happened = ⟨c, .waiting call⟩)
      (hsettings : c.settings = settings) (hasks : Client.Asks call settings id request)
      (hs : c.statusAt id = some .finWait) (hnot : ¬ w.Released id happened)
  /-- Its socket does not wait any more, and it has not noticed. -/
  | released {c : Client} {call : Handshake} (hrun : w.run happened = ⟨c, .waiting call⟩)
      (hsettings : c.settings = settings) (hasks : Client.Asks call settings id request)
      (hs : c.statusAt id = some .closed) (hrel : w.Released id happened)
  /-- It has succeeded. -/
  | succeeded {c : Client} (hrun : w.run happened = ⟨c, .finished (.ok ())⟩)
      (hs : c.statusAt id = some .closed) (hrel : w.Released id happened)
  /-- It has failed. -/
  | failed {c : Client} {e : Error} (hrun : w.run happened = ⟨c, .finished (.error e)⟩)
      (hs : c.statusAt id = some .closed) (hnot : ¬ w.Released id happened)
      (hfails : Fails settings id request happened e)

namespace Stands

/-- Waking the call releases nothing. -/
theorem not_releases_wake {c : Client} {now : Nat} {refuse : Refusal Error} :
    ¬ c.Releases id (.wake now refuse) := by
  rintro ⟨-, ⟨g, now', refuse', heq, -⟩ | heq⟩ <;> cases heq

/-- The socket does not wait once it has no connection. -/
theorem not_releases_of_closed {c : Client} (h : c.statusAt id = some .closed) :
    ¬ c.Releases id o := by
  rintro ⟨hs, -⟩
  rw [h] at hs
  cases hs

theorem fails_concat {e : Error} (h : Fails settings id request happened e)
    (o : Client.Occurrence) : Fails settings id request (happened ++ [o]) e := by
  rcases h with h | ⟨now, refuse, n, hmem, hrefuse⟩
  · exact .inl h
  · exact .inr ⟨now, refuse, n, List.mem_append_left _ hmem, hrefuse⟩

/-- **The call is woken.** -/
theorem wake (h : w.Stands settings id request happened) (now : Nat) (refuse : Refusal Error) :
    w.Stands settings id request (happened ++ [.wake now refuse]) := by
  have hsame : w.Released id (happened ++ [.wake now refuse]) ↔ w.Released id happened :=
    released_concat_iff.trans (or_iff_left not_releases_wake)
  cases h with
  | @asking c call hrun hsettings hasks hs hnot =>
    subst hsettings
    have hlast : w.run (happened ++ [.wake now refuse]) =
        ⟨(c.advance call now refuse).client, (c.advance call now refuse).state⟩ := by
      rw [run_concat, hrun]
      rfl
    rcases Client.advanceFrom_of_finWait now 0 refuse hasks hs with
      ⟨call', hstate, hclient, hasks', -⟩ | ⟨e, hstate, hended, hwhy⟩
    · rw [Client.advance, hstate, hclient] at hlast
      exact .asking hlast rfl hasks' hs (mt hsame.1 hnot)
    · rw [Client.advance, hstate] at hlast
      refine .failed hlast hended.statusAt_eq (mt hsame.1 hnot) (hwhy.imp_right ?_)
      rintro ⟨n, hrefuse⟩
      exact ⟨now, refuse, n, List.mem_append_right _ (List.mem_singleton.2 rfl), hrefuse⟩
  | @released c call hrun hsettings hasks hs hrel =>
    subst hsettings
    obtain ⟨hstate, hended⟩ := Client.advance_of_closed hasks hs now refuse
    refine .succeeded (c := (c.advance call now refuse).client) ?_ hended.statusAt_eq (hsame.2 hrel)
    rw [run_concat, hrun, ← hstate]
    rfl
  | succeeded hrun hs hrel => exact .succeeded (by rw [run_concat, hrun]; rfl) hs (hsame.2 hrel)
  | failed hrun hs hnot hfails =>
    exact .failed (by rw [run_concat, hrun]; rfl) hs (mt hsame.1 hnot) (fails_concat hfails _)

/-- **Something happens** to the client. -/
theorem step (h : w.Stands settings id request happened) (ho : o.Spares id) :
    w.Stands settings id request (happened ++ [o]) := by
  by_cases hwake : ∃ now refuse, o = .wake now refuse
  · obtain ⟨now, refuse, rfl⟩ := hwake
    exact h.wake now refuse
  · have hne := fun now refuse heq => hwake ⟨now, refuse, heq⟩
    cases h with
    | @asking c call hrun hsettings hasks hs hnot =>
      have hlast : w.run (happened ++ [o]) = ⟨c.after o, .waiting call⟩ := by
        rw [run_concat, hrun, step_of_ne _ _ hne]
      have hsettings' := (Client.settings_after o).trans hsettings
      rcases Client.statusAt_after_of_finWait ho hs with ⟨hs', hrel⟩ | ⟨hs', hnot'⟩
      · exact .released hlast hsettings' hasks hs' (released_concat_iff.2 (.inr (by rwa [hrun])))
      · refine .asking hlast hsettings' hasks hs' fun hrel => ?_
        rcases released_concat_iff.1 hrel with hrel | hrel
        · exact hnot hrel
        · rw [hrun] at hrel
          exact hnot' hrel
    | @released c call hrun hsettings hasks hs hrel =>
      exact .released (by rw [run_concat, hrun, step_of_ne _ _ hne])
        ((Client.settings_after o).trans hsettings) hasks (Client.statusAt_after_of_closed ho hs)
        (released_concat_iff.2 (.inl hrel))
    | succeeded hrun hs hrel =>
      exact .succeeded (by rw [run_concat, hrun, step_of_finished])
        (Client.statusAt_after_of_closed ho hs) (released_concat_iff.2 (.inl hrel))
    | failed hrun hs hnot hfails =>
      refine .failed (by rw [run_concat, hrun, step_of_finished])
        (Client.statusAt_after_of_closed ho hs) (fun hrel => ?_) (fails_concat hfails _)
      rcases released_concat_iff.1 hrel with hrel | hrel
      · exact hnot hrel
      · rw [hrun] at hrel
        exact not_releases_of_closed hs hrel

/-- **Several things happen** to the client. -/
theorem run (h : w.Stands settings id request []) (hspares : ∀ o ∈ happened, o.Spares id) :
    w.Stands settings id request happened := by
  induction happened using List.reverseRecOn with
  | nil => exact h
  | append_singleton happened o ih =>
    have hbefore := ih fun o' ho' => hspares o' (List.mem_append_left _ ho')
    exact hbefore.step (hspares o (List.mem_append_right _ (List.mem_singleton.2 rfl)))

/-- A call that is woken succeeds if and only if its socket was released. -/
theorem succeeds_iff (h : w.Stands settings id request happened) (now : Nat)
    (refuse : Refusal Error) :
    (w.run (happened ++ [.wake now refuse])).state = .finished (.ok ()) ↔
      w.Released id happened := by
  have hsame : w.Released id (happened ++ [.wake now refuse]) ↔ w.Released id happened :=
    released_concat_iff.trans (or_iff_left not_releases_wake)
  rw [← hsame]
  have hnext := h.wake now refuse
  cases h with
  | released hrun hsettings hasks hs hrel =>
    subst hsettings
    obtain ⟨hstate, -⟩ := Client.advance_of_closed hasks hs now refuse
    rw [hsame, run_concat, hrun]
    exact iff_of_true hstate hrel
  | asking hrun hsettings hasks hs hnot =>
    refine iff_of_false (fun hok => ?_) (mt hsame.1 hnot)
    cases hnext with
    | asking hrun' => rw [hrun'] at hok; cases hok
    | released _ _ _ _ hrel => exact hnot (hsame.1 hrel)
    | succeeded _ _ hrel => exact hnot (hsame.1 hrel)
    | failed hrun' => rw [hrun'] at hok; cases hok
  | succeeded hrun hs hrel =>
    refine iff_of_true ?_ (hsame.2 hrel)
    rw [run_concat, hrun]
    rfl
  | failed hrun hs hnot hfails =>
    refine iff_of_false (fun hok => ?_) (mt hsame.1 hnot)
    rw [run_concat, hrun, step_of_finished] at hok
    cases hok

/-- A call that returns leaves its socket without a connection and with nothing to send. -/
theorem ended_of_wake (h : w.Stands settings id request happened) {now : Nat}
    {refuse : Refusal Error} {call : Handshake} {result : Except Error Unit}
    (hwaits : (w.run happened).state = .waiting call)
    (hreturns : (w.run (happened ++ [.wake now refuse])).state = .finished result) :
    (w.run (happened ++ [.wake now refuse])).client.Ended id := by
  cases h with
  | @asking c call' hrun hsettings hasks hs hnot =>
    subst hsettings
    rw [run_concat, hrun] at hreturns ⊢
    rcases Client.advanceFrom_of_finWait now 0 refuse hasks hs with
      ⟨call'', hstate, -⟩ | ⟨e, -, hended, -⟩
    · cases hstate.symm.trans hreturns
    · exact hended
  | released hrun hsettings hasks hs hrel =>
    subst hsettings
    rw [run_concat, hrun]
    exact (Client.advance_of_closed hasks hs now refuse).2
  | succeeded hrun => rw [hrun] at hwaits; cases hwaits
  | failed hrun => rw [hrun] at hwaits; cases hwaits

theorem fails_of_finished (h : w.Stands settings id request happened) {e : Error}
    (hfailed : (w.run happened).state = .finished (.error e)) :
    Fails settings id request happened e := by
  cases h with
  | asking hrun => rw [hrun] at hfailed; cases hfailed
  | released hrun => rw [hrun] at hfailed; cases hfailed
  | succeeded hrun => rw [hrun] at hfailed; cases hfailed
  | failed hrun _ _ hfails =>
    rw [hrun] at hfailed
    cases hfailed
    exact hfails

end Stands

/-! ### The end of a call -/

/-- The times at which the call was woken. -/
def wakeTimes (happened : List Client.Occurrence) : List Nat :=
  happened.filterMap fun
    | .wake now _ => some now
    | _ => none

theorem state_run_of_finished (result : Except Error Unit) (happened : List Client.Occurrence) :
    ∀ c, (run ⟨c, .finished result⟩ happened).state = .finished result := by
  induction happened with
  | nil => exact fun _ => rfl
  | cons o happened ih =>
    intro c
    rw [run, List.foldl_cons, step_of_finished]
    exact ih _

/-- **A call to disconnect returns** if it is woken often enough, each time after the timeout. -/
theorem exists_finished (happened : List Client.Occurrence) :
    ∀ {c : Client} {call : Handshake}, c.settings = settings →
      Client.Asks call settings id request →
      c.statusAt id = some .finWait ∨ c.statusAt id = some .closed →
      (∀ o ∈ happened, o.Spares id) →
      (∀ now ∈ (wakeTimes happened).head?, Client.Due call settings now) →
      (wakeTimes happened).IsChain (fun first second => first + settings.finTimeout ≤ second) →
      settings.finAttempts < call.attempts + (wakeTimes happened).length →
      ∃ result, (run ⟨c, .waiting call⟩ happened).state = .finished result := by
  induction happened with
  | nil =>
    intro c call _ hasks _ _ _ _ hmany
    exact absurd hasks.attempts_le (Nat.not_le.2 hmany)
  | cons o happened ih =>
    intro c call hsettings hasks hs hspares hdue hspaced hmany
    have hspares' : ∀ o ∈ happened, o.Spares id :=
      fun o ho => hspares o (List.mem_cons_of_mem _ ho)
    rw [run, List.foldl_cons]
    by_cases hwake : ∃ now refuse, o = .wake now refuse
    · obtain ⟨now, refuse, rfl⟩ := hwake
      subst hsettings
      obtain ⟨hnext, hspaced⟩ := List.isChain_cons.1
        (show (now :: wakeTimes happened).IsChain _ from hspaced)
      have hend : ∀ result, (c.advance call now refuse).state = .finished result →
          ∃ result, (run (step ⟨c, .waiting call⟩ (.wake now refuse)) happened).state =
            .finished result := by
        intro result hstate
        refine ⟨result, ?_⟩
        rw [show step ⟨c, .waiting call⟩ (.wake now refuse) = ⟨_, .finished result⟩ from
          congrArg (mk _) hstate]
        exact state_run_of_finished _ _ _
      rcases hs with hs | hs
      · rcases Client.advanceFrom_of_finWait now 0 refuse hasks hs with
          ⟨call', hstate, hclient, hasks', hmore, hlater⟩ | ⟨e, hstate, -⟩
        -- the next attempt was made now
        · have hlt := hlater (hdue now rfl)
          have hlast : call'.lastSent = now := by
            rcases hmore with rfl | ⟨-, hlast⟩
            · exact absurd hlt (Nat.lt_irrefl _)
            · exact hlast
          have hstep : step ⟨c, .waiting call⟩ (.wake now refuse) = ⟨c, .waiting call'⟩ := by
            show Awaited.mk (c.advance call now refuse).client (c.advance call now refuse).state = _
            rw [Client.advance, hstate, hclient]
          rw [hstep]
          refine ih rfl hasks' (.inl hs) hspares' (fun later hlater => .inr ?_) hspaced ?_
          · have := hnext later hlater
            rw [hlast]
            omega
          · have hlen : (wakeTimes (.wake now refuse :: happened)).length =
                (wakeTimes happened).length + 1 := rfl
            omega
        · exact hend _ hstate
      · exact hend _ (Client.advance_of_closed hasks hs now refuse).1
    · have hne := fun now refuse heq => hwake ⟨now, refuse, heq⟩
      have hsame : wakeTimes (o :: happened) = wakeTimes happened := by
        cases o with
        | wake now refuse => exact absurd rfl (hne now refuse)
        | _ => rfl
      rw [hsame] at hdue hspaced hmany
      rw [step_of_ne _ _ hne]
      have ho := hspares o List.mem_cons_self
      refine ih ((Client.settings_after o).trans hsettings) hasks ?_ hspares' hdue hspaced hmany
      rcases hs with hs | hs
      · exact (Client.statusAt_after_of_finWait ho hs).symm.imp And.left And.left
      · exact .inr (Client.statusAt_after_of_closed ho hs)

end Awaited

namespace Client

variable {c : Client} {id : SocketId}

/-- A call to disconnect a connected socket begins to wait for the answer. -/
theorem stands_disconnect {s : Socket ClientConnection} (hs : c.sockets.socket? id = some s)
    (hconnected : s.state.status = .connected) :
    ∃ c' call, c.disconnect id = .ok (c', call) ∧ c'.settings = c.settings ∧
      c'.statusAt id = some .finWait ∧ Asks call c.settings id call.request ∧ call.attempts = 0 ∧
      Awaited.Stands ⟨c', .waiting call⟩ c.settings id call.request [] := by
  unfold disconnect SocketTable.require
  rw [hs]
  simp only [bind, Except.bind]
  rw [if_pos hconnected]
  have hwaits : (c.set id { s.state with
      nextSeq := s.state.nextSeq + 1
      status := .finWait }).statusAt id = some .finWait := by
    rw [statusAt_set, if_pos rfl, statusAt_of_socket? hs]
    rfl
  refine ⟨_, _, rfl, rfl, hwaits, ⟨rfl, rfl, rfl, Nat.zero_le _⟩, rfl, ?_⟩
  refine .asking rfl rfl ⟨rfl, rfl, rfl, Nat.zero_le _⟩ hwaits ?_
  rintro ⟨first, o, rest, heq, -⟩
  cases first <;> cases heq

/-- **What a call to disconnect returns.**  Whatever happens meanwhile, other than calls that
connect, disconnect or close the same socket, it succeeds if and only if the answer to its request
has arrived, or the link was lost, while its socket was waiting.  Otherwise it fails, because its
attempts are used up or because the link has refused one.  When it returns, its socket has no
connection and nothing to send, and it does return if it is woken often enough. -/
theorem disconnect_returns {s : Socket ClientConnection} (hs : c.sockets.socket? id = some s)
    (hconnected : s.state.status = .connected) :
    ∃ c' call, c.disconnect id = .ok (c', call) ∧
      ∀ happened : List Occurrence, (∀ o ∈ happened, o.Spares id) →
        let run := Awaited.run ⟨c', .waiting call⟩
        (∀ now refuse, (run (happened ++ [.wake now refuse])).state = .finished (.ok ()) ↔
          ∃ first o rest, happened = first ++ o :: rest ∧
            (run first).client.statusAt id = some .finWait ∧
            ((∃ g now refuse, o = .handle g now refuse ∧ (run first).client.Confirms id g) ∨
              o = .linkLost)) ∧
        (∀ e, (run happened).state = .finished (.error e) →
          e = .disconnectTimeout id c.settings.finAttempts ∨
            ∃ now refuse n, .wake now refuse ∈ happened ∧ refuse n call.request = some e) ∧
        (∀ now refuse call' result, (run happened).state = .waiting call' →
          (run (happened ++ [.wake now refuse])).state = .finished result →
          (run (happened ++ [.wake now refuse])).client.Ended id) ∧
        ((Awaited.wakeTimes happened).IsChain
            (fun first second => first + c.settings.finTimeout ≤ second) →
          c.settings.finAttempts < (Awaited.wakeTimes happened).length →
          ∃ result, (run happened).state = .finished result) := by
  obtain ⟨c', call, hcall, hsettings, hwaits, hasks, hnone, hstands⟩ :=
    stands_disconnect hs hconnected
  refine ⟨c', call, hcall, fun happened hspares => ?_⟩
  have hnow := hstands.run hspares
  refine ⟨hnow.succeeds_iff, fun e => hnow.fails_of_finished, fun now refuse call' result =>
    hnow.ended_of_wake, fun hspaced hmany => ?_⟩
  refine Awaited.exists_finished happened hsettings hasks (.inl hwaits) hspares
    (fun now _ => .inl hnone) hspaced ?_
  rwa [hnone, Nat.zero_add]

/-! ### An answer and a lost link -/

/-- A client with a connection from port `7` to port `9` of the second node. -/
def sampleConnected : Client :=
  ⟨{}, ⟨[some ⟨7, { serverNode := 2, serverPort := 9, status := .connected, nextSeq := 42 }⟩]⟩⟩

/-- The answer to a request to disconnect. -/
def sampleFinAck : Segment :=
  (Segment.finOf 7 9 42).reply .finAck 42

/-- The answer arrives at once, and the call succeeds. -/
theorem disconnect_returns_answered :
    sampleConnected.statusAt 0 = some .connected ∧
      ∃ c' call, sampleConnected.disconnect 0 = .ok (c', call) ∧
        (Awaited.run ⟨c', .waiting call⟩ [.wake 0 neverRefused, .handle sampleFinAck 1 neverRefused,
          .wake 2 neverRefused]).state = .finished (.ok ()) := by
  obtain ⟨c', call, hcall, hreturns⟩ := @disconnect_returns sampleConnected 0 _ rfl rfl
  -- once the request is sent, the answer belongs to the socket, which waits for it
  have hwaits : (Awaited.run ⟨c', .waiting call⟩ [.wake 0 neverRefused]).client.statusAt 0 =
      some .finWait := by
    cases hcall
    decide +kernel
  have hfound : ((Awaited.run ⟨c', .waiting call⟩ [.wake 0 neverRefused]).client.lookup
      sampleFinAck).map (fun e => (e.1, e.2.state.status)) = some (0, .finWait) := by
    cases hcall
    decide +kernel
  obtain ⟨⟨j, s⟩, hlookup, heq⟩ := Option.map_eq_some_iff.1 hfound
  obtain ⟨rfl, hstatus⟩ := Prod.mk.inj heq
  have hspares : ∀ o ∈ [Occurrence.wake 0 neverRefused, .handle sampleFinAck 1 neverRefused],
      o.Spares 0 := by
    intro o ho
    rcases List.mem_cons.1 ho with rfl | ho
    · exact trivial
    · rw [List.mem_singleton] at ho
      subst ho
      exact trivial
  refine ⟨by decide, c', call, hcall, ((hreturns _ hspares).1 2 neverRefused).2
    ⟨[.wake 0 neverRefused], .handle sampleFinAck 1 neverRefused, [], rfl, hwaits, .inl ?_⟩⟩
  exact ⟨sampleFinAck, 1, neverRefused, rfl, s, hlookup, hstatus, rfl⟩

/-- The link is lost while the call waits, and nothing arrives.  The call succeeds all the same. -/
theorem lost_link_succeeds :
    sampleConnected.statusAt 0 = some .connected ∧
      ∃ c' call, sampleConnected.disconnect 0 = .ok (c', call) ∧
        (Awaited.run ⟨c', .waiting call⟩ [.wake 0 neverRefused]).client.statusAt 0 = some .finWait ∧
        (Awaited.run ⟨c', .waiting call⟩
          [.wake 0 neverRefused, .linkLost, .wake 1 neverRefused]).state = .finished (.ok ()) := by
  obtain ⟨c', call, hcall, -, -, -, -, hstands⟩ := @stands_disconnect sampleConnected 0 _ rfl rfl
  have hwaits : (Awaited.run ⟨c', .waiting call⟩ [.wake 0 neverRefused]).client.statusAt 0 =
      some .finWait := by
    cases hcall
    decide +kernel
  refine ⟨by decide, c', call, hcall, hwaits, ?_⟩
  have hlost := (hstands.wake 0 neverRefused).step (show Occurrence.linkLost.Spares 0 from trivial)
  refine (hlost.succeeds_iff 1 neverRefused).2
    ⟨[.wake 0 neverRefused], .linkLost, [], rfl, hwaits, .inr rfl⟩

end Client

end OverlayStack.Transport
