import OverlayStack.Proofs.Transport.ReceiveRoom
import OverlayStack.Transport.Session

/-!
# Segments that come again

A client sends a segment again when it does not hear of it, be it that the segment was lost, that
the answer was lost, or that the server could not send the answer.  The server need not tell these
apart: once the answer was sent, the same segment gets the same answer and changes nothing more, and
as long as the answer could not be sent, it is as if the segment had not come before.

What a server does with a segment is a reaction of one connection, which does not depend on the
link.  So it is enough to look at how a connection reacts after each of the three reactions there
are.

## Main definitions

* `Reaction`, `ServerConnection.reaction` — what a connection does with a segment.
* `Server.Unanswered` — the link does not take the answer to a segment.
* `Server.unstamped` — a server without the times at which clients have left.
* `Server.handleEach` — a server to which a segment comes again and again.

## Main results

* `Server.handle_eq` — a server answers with the reaction of a connection.
* `ServerConnection.reaction_taken`, `ServerConnection.reaction_refused` — how a connection reacts
  to the same segment.
* `Server.handle_of_unanswered`, `Server.handle_of_answered` — the second of two attempts.
* `Server.handle_again` — handling a segment twice is handling it once.
-/

namespace OverlayStack.Transport

/-! ### Tables -/

namespace SocketTable

universe u

variable {σ : Type u}

/-- Setting the state of a socket changes this socket where it is. -/
theorem socketsFrom_modify (x : σ) (slots : List (Option (Socket σ))) :
    ∀ first n : Nat,
      socketsFrom first (slots.modify n fun slot => slot.map fun s => { s with state := x }) =
        (socketsFrom first slots).map fun e =>
          if e.1 = first + n then (e.1, { e.2 with state := x }) else e := by
  induction slots with
  | nil =>
    intro first n
    rw [List.modify_nil]
    rfl
  | cons slot slots ih =>
    intro first n
    cases n with
    | zero =>
      -- the other sockets have later places
      have hrest : (socketsFrom (first + 1) slots).map (fun e =>
          if e.1 = first + 0 then (e.1, { e.2 with state := x }) else e) =
            socketsFrom (first + 1) slots := by
        conv_rhs => rw [← List.map_id (socketsFrom (first + 1) slots)]
        refine List.map_congr_left ?_
        rintro ⟨j, s⟩ hmem
        have hle := (mem_socketsFrom_iff.1 hmem).1
        exact if_neg (Nat.ne_of_gt hle)
      rw [List.modify_zero_cons]
      cases slot with
      | none => exact hrest.symm
      | some s =>
        rw [Option.map_some, socketsFrom, socketsFrom, List.map_cons, hrest]
        exact congrArg (· :: _) (if_pos rfl).symm
    | succ n =>
      have hnext : first + (n + 1) = first + 1 + n := by omega
      rw [List.modify_succ_cons, hnext]
      cases slot with
      | none => exact ih (first + 1) n
      | some s =>
        have hne : first ≠ first + 1 + n := by omega
        rw [socketsFrom, socketsFrom, List.map_cons, ih (first + 1) n]
        exact congrArg (· :: _) (if_neg hne).symm

/-- A search that does not look at states finds the same socket when a state was set. -/
theorem find?_set {t : SocketTable σ} {p : Socket σ → Bool} {id : SocketId} {s : Socket σ}
    (hp : ∀ (s : Socket σ) x, p { s with state := x } = p s) (h : t.find? p = some (id, s))
    (x : σ) : (t.set id x).find? p = some (id, { s with state := x }) := by
  have hsockets : (t.set id x).sockets = t.sockets.map fun e =>
      if e.1 = id then (e.1, { e.2 with state := x }) else e := by
    rw [sockets, set, socketsFrom_modify x t.slots 0 id, Nat.zero_add]
    rfl
  have htest : (fun e : SocketId × Socket σ => p e.2) ∘ (fun e =>
      if e.1 = id then (e.1, { e.2 with state := x }) else e) = fun e => p e.2 := by
    funext e
    rw [Function.comp]
    split
    · exact hp e.2 x
    · rfl
  rw [find?] at h ⊢
  rw [hsockets, List.find?_map, htest, h, Option.map_some, if_pos rfl]

/-- Of two states that are set, the second one stays. -/
theorem set_set (t : SocketTable σ) (id : SocketId) (x y : σ) :
    (t.set id x).set id y = t.set id y := by
  rw [set, set, set, List.modify_modify_eq]
  congr 2
  funext slot
  cases slot <;> rfl

/-- Of a state that is set and then changed, only what the change leaves of it matters. -/
theorem map_set (t : SocketTable σ) (id : SocketId) {x x' : σ} {f : σ → σ} (h : f x = f x') :
    (t.set id x).map f = (t.set id x').map f := by
  rw [map, map, set, set]
  congr 1
  apply List.ext_getElem?
  intro j
  rw [List.getElem?_map, List.getElem?_map, List.getElem?_modify, List.getElem?_modify]
  cases t.slots[j]? with
  | none => rfl
  | some slot =>
    by_cases hj : id = j
    · cases slot <;> simp [hj, h]
    · simp [hj]

end SocketTable

/-! ### The reaction of a connection -/

/-- What a connection does with a segment. -/
structure Reaction where
  /-- The answer. -/
  reply : Segment
  /-- The connection after the link has taken the answer. -/
  taken : ServerConnection
  /-- The connection after the link has refused the answer. -/
  refused : ServerConnection

namespace ServerConnection

variable {y : ServerConnection} {capacity : Nat} {source : NodeId} {g : Segment} {now : Nat}
  {r : Reaction}

/-- What a connection does with a segment, if it answers. -/
def reaction (y : ServerConnection) (capacity : Nat) (source : NodeId) (g : Segment) (now : Nat) :
    Option Reaction :=
  match y.status, g.kind with
  | .listening, .syn | .connected, .syn =>
    let z := y.restarted source g
    some ⟨g.reply .synAck z.expected, { z with status := .connected }, z⟩
  | .connected, .fin | .closeWait, .fin => some ⟨g.reply .finAck y.expected, y.leaving now, y⟩
  | .connected, .data =>
    let z := y.absorb capacity g
    some ⟨g.reply .dataAck z.expected, z, z⟩
  | _, _ => none

/-- The three reactions. -/
theorem reaction_cases (h : y.reaction capacity source g now = some r) :
    (y.status = .listening ∨ y.status = .connected) ∧ g.kind = .syn ∧
        r = ⟨g.reply .synAck (y.restarted source g).expected,
          { y.restarted source g with status := .connected }, y.restarted source g⟩ ∨
      (y.status = .connected ∨ y.status = .closeWait) ∧ g.kind = .fin ∧
        r = ⟨g.reply .finAck y.expected, y.leaving now, y⟩ ∨
      y.status = .connected ∧ g.kind = .data ∧
        r = ⟨g.reply .dataAck (y.absorb capacity g).expected, y.absorb capacity g,
          y.absorb capacity g⟩ := by
  unfold reaction at h
  split at h
  · next hs hk => exact .inl ⟨.inl hs, hk, (Option.some.inj h).symm⟩
  · next hs hk => exact .inl ⟨.inr hs, hk, (Option.some.inj h).symm⟩
  · next hs hk => exact .inr (.inl ⟨.inl hs, hk, (Option.some.inj h).symm⟩)
  · next hs hk => exact .inr (.inl ⟨.inr hs, hk, (Option.some.inj h).symm⟩)
  · next hs hk => exact .inr (.inr ⟨hs, hk, (Option.some.inj h).symm⟩)
  · cases h

theorem reaction_syn (hk : g.kind = .syn) (hs : y.status = .listening ∨ y.status = .connected) :
    y.reaction capacity source g now = some ⟨g.reply .synAck (y.restarted source g).expected,
      { y.restarted source g with status := .connected }, y.restarted source g⟩ := by
  unfold reaction
  rw [hk]
  rcases hs with hs | hs <;> rw [hs]

theorem reaction_fin (hk : g.kind = .fin) (hs : y.status = .connected ∨ y.status = .closeWait) :
    y.reaction capacity source g now = some ⟨g.reply .finAck y.expected, y.leaving now, y⟩ := by
  unfold reaction
  rw [hk]
  rcases hs with hs | hs <;> rw [hs]

theorem reaction_data (hk : g.kind = .data) (hs : y.status = .connected) :
    y.reaction capacity source g now = some ⟨g.reply .dataAck (y.absorb capacity g).expected,
      y.absorb capacity g, y.absorb capacity g⟩ := by
  unfold reaction
  rw [hk, hs]

/-- A piece of the stream is taken exactly if it is the next one and there is room for it. -/
theorem absorb_eq_ite (y : ServerConnection) (capacity : Nat) (g : Segment) :
    y.absorb capacity g =
      if g.seq = y.expected ∧ y.buffer.length + g.payload.length ≤ capacity then
        { y with
          buffer := y.buffer ++ g.payload
          expected := y.expected + UInt32.ofNat g.payload.length }
      else y := by
  unfold absorb accepts
  simp only [Bool.and_eq_true, beq_iff_eq, decide_eq_true_eq]

/-- A piece of the stream that was taken is not the next one any more, unless it is empty. -/
theorem absorb_absorb (y : ServerConnection) (capacity : Nat) (hshort : g.payload.length ≤ 65535) :
    (y.absorb capacity g).absorb capacity g = y.absorb capacity g := by
  rw [absorb_eq_ite y]
  split
  · next htaken =>
    rw [absorb_eq_ite]
    split
    · next hagain =>
      -- the next position has not changed, so the piece is empty
      have hsame : y.expected + 0 = y.expected + UInt32.ofNat g.payload.length := by
        rw [UInt32.add_zero]
        exact htaken.1.symm.trans hagain.1
      have hzero := (UInt32.add_right_inj y.expected).1 hsame
      have hnat := congrArg UInt32.toNat hzero.symm
      rw [UInt32.toNat_ofNat', Nat.mod_eq_of_lt (by omega)] at hnat
      rw [List.length_eq_zero_iff.1 hnat]
      simp
    · rfl
  · next hleft => rw [absorb_eq_ite, if_neg hleft]

theorem expected_leaving (y : ServerConnection) (now : Nat) :
    (y.leaving now).expected = y.expected := by
  unfold leaving
  split <;> rfl

/-- **After the answer was taken**, the same segment gets the same answer and changes nothing. -/
theorem reaction_taken (hshort : g.payload.length ≤ 65535)
    (h : y.reaction capacity source g now = some r) (now' : Nat) :
    r.taken.reaction capacity source g now' = some ⟨r.reply, r.taken, r.taken⟩ := by
  obtain ⟨-, hk, rfl⟩ | ⟨hs, hk, rfl⟩ | ⟨hs, hk, rfl⟩ := reaction_cases h
  · exact reaction_syn hk (.inr rfl)
  · have hleft : (y.leaving now).status = .closeWait := by
      unfold leaving
      rcases hs with hs | hs
      · rw [if_pos hs]
      · rw [if_neg (by rw [hs]; decide), hs]
    have hagain : (y.leaving now).leaving now' = y.leaving now :=
      if_neg (by rw [hleft]; decide)
    rw [reaction_fin hk (.inr hleft), hagain, expected_leaving]
  · rw [reaction_data hk ((status_absorb y capacity g).trans hs), absorb_absorb y capacity hshort]

/-- **After the answer was refused**, the same segment is handled as if it had not come before. -/
theorem reaction_refused (hshort : g.payload.length ≤ 65535)
    (h : y.reaction capacity source g now = some r) (now' : Nat) :
    r.refused.reaction capacity source g now' = y.reaction capacity source g now' := by
  obtain ⟨hs, hk, rfl⟩ | ⟨-, -, rfl⟩ | ⟨hs, hk, rfl⟩ := reaction_cases h
  · rw [reaction_syn hk hs]
    exact reaction_syn hk hs
  · rfl
  · rw [reaction_data hk hs, reaction_data hk ((status_absorb y capacity g).trans hs),
      absorb_absorb y capacity hshort]

/-- The connection without the time at which the client has left. -/
def unstamped (y : ServerConnection) : ServerConnection :=
  { y with closeWaitSince := none }

/-- The time only decides which time is noted when the client leaves. -/
theorem reaction_unstamped (h : y.reaction capacity source g now = some r) (now' : Nat) :
    ∃ r', y.reaction capacity source g now' = some r' ∧ r'.reply = r.reply ∧
      r'.taken.unstamped = r.taken.unstamped ∧ r'.refused = r.refused := by
  obtain ⟨hs, hk, rfl⟩ | ⟨hs, hk, rfl⟩ | ⟨hs, hk, rfl⟩ := reaction_cases h
  · exact ⟨_, reaction_syn hk hs, rfl, rfl, rfl⟩
  · have hleft : (y.leaving now').unstamped = (y.leaving now).unstamped := by
      unfold leaving
      split <;> rfl
    exact ⟨_, reaction_fin hk hs, rfl, hleft, rfl⟩
  · exact ⟨_, reaction_data hk hs, rfl, rfl, rfl⟩

end ServerConnection

/-! ### Servers -/

namespace Server

variable {s : Server} {source : NodeId} {g : Segment} {id : SocketId}
  {socket : Socket ServerConnection}

/-- What a socket returns when it does not answer a segment. -/
def silence (socket : Socket ServerConnection) (g : Segment) : Except Error Unit :=
  if socket.state.status = .closed then .ok ()
  else .error (.protocolViolation socket.port socket.state.status g.kind)

/-- **A server answers with the reaction of a connection.** -/
theorem handle_eq (hfound : s.lookup g = some (id, socket)) (now : Nat) (refuse : Refusal Error) :
    s.handle source g now refuse =
      match socket.state.reaction s.settings.receiveCapacity source g now with
      | some r => s.answer id source r.reply refuse r.taken r.refused
      | none => Effect.quiet s (silence socket g) := by
  rw [handle, hfound, silence, ServerConnection.reaction]
  cases hs : socket.state.status <;> cases hk : g.kind <;> simp only [hs] <;> rfl

/-- A segment finds the same socket when the state of this socket was set. -/
theorem lookup_set (hfound : s.lookup g = some (id, socket)) (x : ServerConnection) :
    (s.set id x).lookup g = some (id, { socket with state := x }) :=
  SocketTable.find?_set (fun _ _ => rfl) hfound x

theorem set_set (s : Server) (id : SocketId) (x y : ServerConnection) :
    (s.set id x).set id y = s.set id y := by
  rw [set, set, set, SocketTable.set_set]

/-- The server without the times at which clients have left. -/
def unstamped (s : Server) : Server :=
  { s with sockets := s.sockets.map ServerConnection.unstamped }

/-- The link below does not take the answer to a segment, though a link that works would. -/
def Unanswered (s : Server) (source : NodeId) (g : Segment) (now : Nat)
    (refuse : Refusal Error) : Prop :=
  (s.handle source g now refuse).sent = [] ∧ (s.handle source g now neverRefused).sent ≠ []

/-- What became of an answer. -/
theorem unanswered_iff (hfound : s.lookup g = some (id, socket)) {now : Nat} {r : Reaction}
    (hr : socket.state.reaction s.settings.receiveCapacity source g now = some r)
    (refuse : Refusal Error) :
    s.Unanswered source g now refuse ↔ refuse 0 r.reply ≠ none := by
  rw [Unanswered, handle_eq hfound, handle_eq hfound, hr]
  dsimp only [answer, neverRefused]
  cases refuse 0 r.reply <;> simp

/-- A segment that is not answered is not one that the link does not take the answer to. -/
theorem not_unanswered_of_quiet {now : Nat} {refuse : Refusal Error} {result : Except Error Unit}
    (h : ∀ refuse, s.handle source g now refuse = Effect.quiet s result) :
    ¬ s.Unanswered source g now refuse := by
  rintro ⟨-, hsome⟩
  rw [h] at hsome
  exact hsome rfl

/-- A server answers with a reaction, or does nothing, whatever the link and the time. -/
theorem handle_eq_or_quiet (s : Server) (source : NodeId) (g : Segment) :
    (∃ id socket, s.lookup g = some (id, socket) ∧
      ∀ now, (socket.state.reaction s.settings.receiveCapacity source g now).isSome = true) ∨
    ∃ result, ∀ now refuse, s.handle source g now refuse = Effect.quiet s result := by
  cases hfound : s.lookup g with
  | none =>
    refine .inr ⟨.ok (), fun now refuse => ?_⟩
    rw [handle, hfound]
  | some found =>
    obtain ⟨id, socket⟩ := found
    cases hr : socket.state.reaction s.settings.receiveCapacity source g 0 with
    | some r =>
      refine .inl ⟨id, socket, rfl, fun now => ?_⟩
      obtain ⟨r', hr', -⟩ := ServerConnection.reaction_unstamped hr now
      rw [hr', Option.isSome_some]
    | none =>
      refine .inr ⟨silence socket g, fun now refuse => ?_⟩
      rw [handle_eq hfound]
      cases hr' : socket.state.reaction s.settings.receiveCapacity source g now with
      | none => rfl
      | some r =>
        obtain ⟨r', hr'', -⟩ := ServerConnection.reaction_unstamped hr' 0
        rw [hr] at hr''
        cases hr''

/-- The time only decides which time is noted when the client leaves, and not even this if the
answer is not sent. -/
theorem handle_time (s : Server) (source : NodeId) (g : Segment) (now now' : Nat)
    (refuse : Refusal Error) :
    (s.handle source g now' refuse).sent = (s.handle source g now refuse).sent ∧
      (s.handle source g now' refuse).result = (s.handle source g now refuse).result ∧
      (s.handle source g now' refuse).state.unstamped =
        (s.handle source g now refuse).state.unstamped ∧
      (s.Unanswered source g now refuse →
        (s.handle source g now' refuse).state = (s.handle source g now refuse).state) := by
  rcases s.handle_eq_or_quiet source g with ⟨id, socket, hfound, hall⟩ | ⟨result, hquiet⟩
  · obtain ⟨r, hr⟩ := Option.isSome_iff_exists.1 (hall now)
    obtain ⟨r', hr', hreply, htaken, hrefused⟩ := ServerConnection.reaction_unstamped hr now'
    rw [unanswered_iff hfound hr, handle_eq hfound, handle_eq hfound, hr, hr']
    dsimp only [answer]
    rw [hreply, hrefused]
    cases refuse 0 r.reply with
    | none =>
      refine ⟨rfl, rfl, ?_, fun h => absurd rfl h⟩
      exact congrArg (Server.mk s.settings) (SocketTable.map_set _ id htaken)
    | some e => exact ⟨rfl, rfl, rfl, fun _ => rfl⟩
  · rw [hquiet, hquiet]
    exact ⟨rfl, rfl, rfl, fun _ => rfl⟩

/-- **The second of two attempts**, when the answer was not sent at the first one: it is as if the
segment had not come before. -/
theorem handle_of_unanswered (hshort : g.payload.length ≤ 65535) {now : Nat}
    {refuse : Refusal Error} (h : s.Unanswered source g now refuse) (now' : Nat)
    (refuse' : Refusal Error) :
    (s.handle source g now refuse).state.handle source g now' refuse' =
      s.handle source g now' refuse' := by
  rcases s.handle_eq_or_quiet source g with ⟨id, socket, hfound, hall⟩ | ⟨result, hquiet⟩
  · obtain ⟨r, hr⟩ := Option.isSome_iff_exists.1 (hall now)
    obtain ⟨e, he⟩ := Option.ne_none_iff_exists'.1 ((unanswered_iff hfound hr refuse).1 h)
    have hfirst : (s.handle source g now refuse).state = s.set id r.refused := by
      rw [handle_eq hfound, hr]
      dsimp only [answer]
      rw [he]
    have hagain := ServerConnection.reaction_refused hshort hr now'
    rw [hfirst, handle_eq (lookup_set hfound r.refused), handle_eq hfound]
    dsimp only
    rw [show (s.set id r.refused).settings = s.settings from rfl, hagain]
    obtain ⟨r', hr'⟩ := Option.isSome_iff_exists.1 (hall now')
    rw [hr']
    dsimp only [answer]
    rw [set_set, set_set]
  · exact absurd h (not_unanswered_of_quiet fun refuse => hquiet now refuse)

/-- **The second of two attempts**, otherwise: nothing changes any more, and the answer is the same
as before. -/
theorem handle_of_answered (hshort : g.payload.length ≤ 65535) {now : Nat}
    {refuse : Refusal Error} (h : ¬ s.Unanswered source g now refuse) (now' : Nat)
    (refuse' : Refusal Error) :
    (s.handle source g now refuse).state.handle source g now' refuse' =
      { s.handle source g now' refuse' with state := (s.handle source g now refuse).state } := by
  rcases s.handle_eq_or_quiet source g with ⟨id, socket, hfound, hall⟩ | ⟨result, hquiet⟩
  · obtain ⟨r, hr⟩ := Option.isSome_iff_exists.1 (hall now)
    obtain ⟨r', hr', hreply, -⟩ := ServerConnection.reaction_unstamped hr now'
    have hnone : refuse 0 r.reply = none := by
      by_contra hsome
      exact h ((unanswered_iff hfound hr refuse).2 hsome)
    have hfirst : (s.handle source g now refuse).state = s.set id r.taken := by
      rw [handle_eq hfound, hr]
      dsimp only [answer]
      rw [hnone]
    have hagain := ServerConnection.reaction_taken hshort hr now'
    rw [hfirst, handle_eq (lookup_set hfound r.taken), handle_eq hfound]
    dsimp only
    rw [show (s.set id r.taken).settings = s.settings from rfl, hagain, hr']
    dsimp only [answer]
    rw [hreply, set_set]
    cases refuse' 0 r.reply <;> rfl
  · rw [hquiet, hquiet]
    exact hquiet now' refuse'

/-! ### Many attempts -/

/-- The server to which a segment comes again and again. -/
def handleEach (s : Server) (source : NodeId) (g : Segment)
    (attempts : List (Nat × Refusal Error)) : Server :=
  attempts.foldl (fun s attempt => (s.handle source g attempt.1 attempt.2).state) s

/-- As long as the answer is not sent, it is as if the segment had not come before. -/
theorem handle_handleEach (hshort : g.payload.length ≤ 65535)
    {attempts : List (Nat × Refusal Error)}
    (hfailed : ∀ attempt ∈ attempts, s.Unanswered source g attempt.1 attempt.2) (now : Nat)
    (refuse : Refusal Error) :
    (s.handleEach source g attempts).handle source g now refuse = s.handle source g now refuse := by
  induction attempts generalizing s with
  | nil => rfl
  | cons attempt attempts ih =>
    have hfirst := handle_of_unanswered hshort (hfailed attempt List.mem_cons_self)
    rw [handleEach, List.foldl_cons, ← hfirst now refuse]
    refine ih fun later hlater => ?_
    have hlater := hfailed later (List.mem_cons_of_mem _ hlater)
    rwa [Unanswered, hfirst, hfirst]

/-- Once the answer was sent, nothing changes any more. -/
theorem handleEach_of_answered (hshort : g.payload.length ≤ 65535) {now : Nat}
    {refuse : Refusal Error} (h : ¬ s.Unanswered source g now refuse)
    (attempts : List (Nat × Refusal Error)) :
    (s.handle source g now refuse).state.handleEach source g attempts =
      (s.handle source g now refuse).state := by
  induction attempts with
  | nil => rfl
  | cons attempt attempts ih =>
    rw [handleEach, List.foldl_cons, handle_of_answered hshort h]
    exact ih

/-- **Handling a segment twice is handling it once.**  Over the same link, the second time changes
nothing and ends like the first.  If the answer was not sent at first, everything is as if the
segment had come for the first time, be it that the link works the second time or not; and the time
at which it comes only decides which time is noted when the client leaves.  However often a segment
comes, the server is the one that the first attempt leaves at which the answer was sent. -/
theorem handle_again (s : Server) (source : NodeId) {g : Segment}
    (hshort : g.payload.length ≤ 65535) (now now' : Nat) (refuse : Refusal Error) :
    (s.handle source g now refuse).state.handle source g now' refuse =
        s.handle source g now refuse ∧
      (s.Unanswered source g now refuse → ∀ refuse' : Refusal Error,
        (s.handle source g now refuse).state.handle source g now' refuse' =
          s.handle source g now' refuse') ∧
      ((s.handle source g now' neverRefused).sent = (s.handle source g now neverRefused).sent ∧
        (s.handle source g now' neverRefused).result =
          (s.handle source g now neverRefused).result ∧
        (s.handle source g now' neverRefused).state.unstamped =
          (s.handle source g now neverRefused).state.unstamped) ∧
      (¬ s.Unanswered source g now refuse → ∀ failed later : List (Nat × Refusal Error),
        (∀ attempt ∈ failed, s.Unanswered source g attempt.1 attempt.2) →
        s.handleEach source g (failed ++ (now, refuse) :: later) =
          (s.handle source g now refuse).state) := by
  obtain ⟨hsent, hresult, hstate, -⟩ := s.handle_time source g now now' neverRefused
  refine ⟨?_, fun h => handle_of_unanswered hshort h now', ⟨hsent, hresult, hstate⟩, ?_⟩
  · obtain ⟨hsent, hresult, -, hsame⟩ := s.handle_time source g now now' refuse
    by_cases h : s.Unanswered source g now refuse
    · rw [handle_of_unanswered hshort h, Effect.mk.injEq]
      exact ⟨hsame h, hsent, hresult⟩
    · rw [handle_of_answered hshort h, Effect.mk.injEq]
      exact ⟨rfl, hsent, hresult⟩
  · intro h failed later hfailed
    rw [handleEach, List.foldl_append, List.foldl_cons]
    change ((s.handleEach source g failed).handle source g now refuse).state.handleEach source g
      later = _
    rw [handle_handleEach hshort hfailed]
    exact handleEach_of_answered hshort h later

/-! ### An answer that is not sent -/

/-- A link that takes nothing. -/
def alwaysRefused : Refusal Error := fun _ _ => some (.transportClosed "")

/-- A socket that has two bytes gets three more, and a link that takes nothing does not take the
answer.  When the segment comes again, the three bytes are not taken again. -/
theorem handle_again_fiveBytes :
    (ServerHost.waiting [1, 2] 3).server.Unanswered 1 (ServerHost.nextData 3 [3, 4, 5]) 0
        alwaysRefused ∧
      (((ServerHost.waiting [1, 2] 3).server.handle 1 (ServerHost.nextData 3 [3, 4, 5]) 0
        alwaysRefused).state.stateAt 0).buffer = [1, 2, 3, 4, 5] ∧
      ((((ServerHost.waiting [1, 2] 3).server.handle 1 (ServerHost.nextData 3 [3, 4, 5]) 0
        alwaysRefused).state.handle 1 (ServerHost.nextData 3 [3, 4, 5]) 8
        neverRefused).state.stateAt 0).buffer = [1, 2, 3, 4, 5] := by
  have hlost : (ServerHost.waiting [1, 2] 3).server.Unanswered 1 (ServerHost.nextData 3 [3, 4, 5])
      0 alwaysRefused := ⟨rfl, List.cons_ne_nil _ _⟩
  obtain ⟨-, hrefused, -⟩ := handle_again (ServerHost.waiting [1, 2] 3).server 1
    (g := ServerHost.nextData 3 [3, 4, 5]) (by decide) 0 8 alwaysRefused
  refine ⟨hlost, rfl, ?_⟩
  rw [hrefused hlost]
  rfl

end Server

end OverlayStack.Transport
