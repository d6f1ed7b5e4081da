import OverlayStack.Proofs.Splits
import OverlayStack.Proofs.Transport.Timing

/-!
# Timers of a client

A call to send starts a timer if the socket counts on none and has anything to send.  The timer
looks at its socket again and again, until it finds no connection or nothing to send; then the
socket does not count on it any more, and the timer stops.  Timers, callers and arriving segments
take turns in any order.  So a timer may look just before a queue is filled again or just after it
was emptied, and it may outlive the connection, and even the socket, that it was started for.
Nevertheless a socket has one timer while it counts on one, and none otherwise.

A connection with anything to send has a timer, with one exception: if a socket is connected again
while a call to disconnect it still waits, then this call has not thrown away yet what was queued
before, though the timer may have stopped in the meantime.  This lasts until the call returns.

## Main definitions

* `Timer`, `TimedClient` — timers that have been started, and a client with them.
* `TimedClient.step`, `TimedClient.run` — what a turn does, and the client after some turns.
* `TimedClient.Starts`, `TimedClient.Stops` — turns in which a timer starts or stops.
* `TimedClient.Manned` — the invariant of the timers of a socket.
* `TimedClient.Overlaps` — a socket was connected again before a call to disconnect returned.

## Main results

* `TimedClient.Manned.turned` — what a turn does to the timers of a socket.
* `TimedClient.Manned.step`, `TimedClient.Manned.run` — the invariant is kept.
* `TimedClient.timed_run` — connections with anything to send have timers.
* `TimedClient.one_timer` — the timers of a socket after any turns.
-/

namespace OverlayStack.Transport

/-! ### Timers that have been started -/

/-- A timer that has been started and has not stopped. -/
structure Timer where
  /-- Timers are numbered in the order in which they are started. -/
  number : Nat
  /-- The socket that it was started for, unless that was closed. -/
  socket : Option SocketId
  deriving DecidableEq

/-- Some new timers of a socket, numbered from `first` on. -/
def Timer.startedFor (id : SocketId) (first count : Nat) : List Timer :=
  (List.range' first count).map fun number => ⟨number, some id⟩

/-- The timer after a socket was closed. -/
def Timer.afterClose (timer : Timer) (id : SocketId) : Timer :=
  if timer.socket = some id then { timer with socket := none } else timer

/-- The numbers of the timers of a socket. -/
def Timer.numbersOf (id : SocketId) (timers : List Timer) : List Nat :=
  (timers.filter fun timer => timer.socket = some id).map (·.number)

namespace Timer

variable {timers : List Timer} {timer : Timer} {id j : SocketId} {place : Nat}

/-- New timers are timers of their socket, and of no other one. -/
theorem numbersOf_startedFor (id j : SocketId) (first count : Nat) :
    numbersOf id (startedFor j first count) = if j = id then List.range' first count else [] := by
  simp only [numbersOf, startedFor, List.filter_map, List.map_map, Function.comp_def]
  by_cases hj : j = id <;> simp [hj]

theorem number_afterClose (timer : Timer) (id : SocketId) :
    (timer.afterClose id).number = timer.number := by
  unfold afterClose
  split <;> rfl

theorem numbersOf_append (first second : List Timer) :
    numbersOf id (first ++ second) = numbersOf id first ++ numbersOf id second := by
  simp [numbersOf]

theorem numbersOf_cons (timer : Timer) (rest : List Timer) :
    numbersOf id (timer :: rest) =
      (if timer.socket = some id then [timer.number] else []) ++ numbersOf id rest := by
  by_cases hsocket : timer.socket = some id <;> simp [numbersOf, hsocket]

theorem mem_numbersOf (hmem : timer ∈ timers) (hsocket : timer.socket = some id) :
    timer.number ∈ numbersOf id timers := by
  simp only [numbersOf, List.mem_map, List.mem_filter, decide_eq_true_eq]
  exact ⟨timer, ⟨hmem, hsocket⟩, rfl⟩

/-- The timers of a socket that is closed have lost it. -/
theorem numbersOf_afterClose_self (timers : List Timer) :
    numbersOf id (timers.map (·.afterClose id)) = [] := by
  induction timers with
  | nil => rfl
  | cons timer rest ih =>
    rw [List.map_cons, numbersOf_cons, ih, afterClose]
    by_cases hsocket : timer.socket = some id <;> simp [hsocket]

/-- The timers of the other sockets have not. -/
theorem numbersOf_afterClose_of_ne (hj : j ≠ id) (timers : List Timer) :
    numbersOf id (timers.map (·.afterClose j)) = numbersOf id timers := by
  induction timers with
  | nil => rfl
  | cons timer rest ih =>
    rw [List.map_cons, numbersOf_cons, numbersOf_cons, ih, afterClose]
    by_cases hsocket : timer.socket = some j <;> simp [hsocket, hj]

/-- A timer that stops is the only one that goes. -/
theorem exists_split_of_eraseIdx (h : timers[place]? = some timer) :
    ∃ front back, timers = front ++ timer :: back ∧ timers.eraseIdx place = front ++ back := by
  induction timers generalizing place with
  | nil => cases h
  | cons first rest ih =>
    cases place with
    | zero =>
      cases h
      exact ⟨[], rest, rfl, rfl⟩
    | succ place =>
      obtain ⟨front, back, hrest, herase⟩ := ih h
      exact ⟨first :: front, back, by simp [← hrest], by simp [herase]⟩

theorem numbersOf_eraseIdx_of_ne (h : timers[place]? = some timer) (hne : timer.socket ≠ some id) :
    numbersOf id (timers.eraseIdx place) = numbersOf id timers := by
  obtain ⟨front, back, rfl, herase⟩ := exists_split_of_eraseIdx h
  rw [herase, numbersOf_append, numbersOf_append, numbersOf_cons, if_neg hne, List.nil_append]

theorem numbersOf_eraseIdx_of_singleton (h : timers[place]? = some timer)
    (hsocket : timer.socket = some id) {n : Nat} (hone : numbersOf id timers = [n]) :
    numbersOf id (timers.eraseIdx place) = [] := by
  obtain ⟨front, back, rfl, herase⟩ := exists_split_of_eraseIdx h
  rw [herase, numbersOf_append]
  rw [numbersOf_append, numbersOf_cons, if_pos hsocket] at hone
  have hlength := congrArg List.length hone
  simp only [List.length_append, List.length_cons, List.length_nil] at hlength
  rw [List.length_eq_zero_iff.1 (show (numbersOf id front).length = 0 by omega),
    List.length_eq_zero_iff.1 (show (numbersOf id back).length = 0 by omega)]
  rfl

end Timer

/-- A client with its timers. -/
structure TimedClient where
  busy : BusyClient
  /-- The timers, in the order in which they were started. -/
  timers : List Timer := []
  /-- How many timers were started. -/
  started : Nat := 0

/-- What happens in a turn. -/
inductive TimedTurn where
  /-- Something is done that timers do not do. -/
  | turn (t : ClientTurn)
  /-- A timer looks at its socket. -/
  | look (place now : Nat) (refuse : Refusal Error)

namespace TimedClient

/-- The state of a socket, or of a new one if there is none at the place. -/
def stateAt (c : TimedClient) (id : SocketId) : ClientConnection :=
  c.busy.client.stateAt id

/-- The numbers of the timers of a socket. -/
def timersOf (c : TimedClient) (id : SocketId) : List Nat :=
  Timer.numbersOf id c.timers

/-- The connection that a timer finds when it looks.  There is none any more if its socket was
closed. -/
def found (c : TimedClient) (timer : Timer) : ClientConnection :=
  (timer.socket.map c.stateAt).getD {}

/-- The client after a call to send.  It has started as many timers as the connection has more than
before, where `ClientConnection.withTimer` adds one. -/
def afterSend (c : TimedClient) (id : SocketId) (busy : BusyClient) : TimedClient :=
  let count := (busy.client.stateAt id).timers - (c.stateAt id).timers
  ⟨busy, c.timers ++ Timer.startedFor id c.started count, c.started + count⟩

/-- The client after a call to close a socket.  Its timers have lost their socket if it is gone. -/
def afterClose (c : TimedClient) (id : SocketId) (busy : BusyClient) : TimedClient :=
  match busy.client.sockets.socket? id with
  | none => { c with busy, timers := c.timers.map (·.afterClose id) }
  | some _ => { c with busy }

/-- The client after a timer has looked at its socket.  A timer that has nothing to do stops. -/
def look (c : TimedClient) (place now : Nat) (refuse : Refusal Error) : TimedClient :=
  match c.timers[place]? with
  | none => c
  | some timer =>
    { c with
      busy := match timer.socket with
        | none => c.busy
        | some id => (c.busy.step { move := .timer id, now, refuse }).1
      timers := if (c.found timer).AtRest then c.timers.eraseIdx place else c.timers }

/-- The client after a turn.  What timers do, they do when they look. -/
def step (c : TimedClient) : TimedTurn → TimedClient
  | .look place now refuse => c.look place now refuse
  | .turn t =>
    match t.move with
    | .timer _ => c
    | .send id _ => c.afterSend id (c.busy.step t).1
    | .close id => c.afterClose id (c.busy.step t).1
    | _ => { c with busy := (c.busy.step t).1 }

/-- The client after some turns. -/
def run (c : TimedClient) (turns : List TimedTurn) : TimedClient :=
  turns.foldl step c

theorem run_append (c : TimedClient) (first second : List TimedTurn) :
    c.run (first ++ second) = (c.run first).run second :=
  List.foldl_append

theorem run_concat (c : TimedClient) (turns : List TimedTurn) (t : TimedTurn) :
    c.run (turns ++ [t]) = (c.run turns).step t := by
  rw [run_append]
  rfl

/-- A timer looks at its socket and has nothing to do. -/
def Stops (c : TimedClient) (id : SocketId) : TimedTurn → Prop
  | .look place _ _ =>
    ∃ timer, c.timers[place]? = some timer ∧ timer.socket = some id ∧ (c.stateAt id).AtRest
  | .turn _ => False

/-- A call to send finds a socket connected, and there are bytes to send, new ones or some that were
queued before. -/
def Starts (c : TimedClient) (id : SocketId) : TimedTurn → Prop
  | .turn t =>
    ∃ data, t.move = .send id data ∧ (c.stateAt id).status = .connected ∧
      (data ≠ [] ∨ (c.stateAt id).buffer.isEmpty = false)
  | .look .. => False

/-- A socket without a connection is closed. -/
def Closes (c : TimedClient) (id : SocketId) : TimedTurn → Prop
  | .turn t => t.move = .close id ∧ (c.stateAt id).status = .closed
  | .look .. => False

/-- A socket has one timer while it counts on one, and none otherwise. -/
inductive Manned (c : TimedClient) (id : SocketId) : Prop where
  | one {n : Nat} (htiming : (c.stateAt id).timing = (true, 1)) (hone : c.timersOf id = [n]) :
      Manned c id
  | none (htiming : (c.stateAt id).timing = (false, 0)) (hnone : c.timersOf id = []) : Manned c id

/-- A socket has as many timers as its connection knows of. -/
theorem Manned.timers_eq {c : TimedClient} {id : SocketId} (h : c.Manned id) :
    (c.stateAt id).timers = (c.timersOf id).length := by
  cases h with
  | one htiming hone =>
    rw [hone]
    exact congrArg Prod.snd htiming
  | none htiming hnone =>
    rw [hnone]
    exact congrArg Prod.snd htiming

/-- What a turn does to the timers of a socket. -/
inductive Turned (c : TimedClient) (id : SocketId) (t : TimedTurn) : Prop where
  /-- There are the same timers as before. -/
  | kept (htiming : ((c.step t).stateAt id).timing = (c.stateAt id).timing)
      (hsame : (c.step t).timersOf id = c.timersOf id) (hstops : ¬ c.Stops id t)
      (hcloses : ¬ c.Closes id t) (hstarts : c.Starts id t → c.timersOf id ≠ []) : Turned c id t
  /-- A timer starts where there was none. -/
  | started (hstarts : c.Starts id t) (hbefore : c.timersOf id = [])
      (htiming : ((c.step t).stateAt id).timing = (true, 1))
      (hone : (c.step t).timersOf id = [c.started]) : Turned c id t
  /-- The timer stops. -/
  | stopped (hstops : c.Stops id t) (htiming : ((c.step t).stateAt id).timing = (false, 0))
      (hnone : (c.step t).timersOf id = []) : Turned c id t
  /-- The socket is closed. -/
  | closed (hcloses : c.Closes id t) (htiming : ((c.step t).stateAt id).timing = (false, 0))
      (hnone : (c.step t).timersOf id = []) : Turned c id t

variable {c : TimedClient} {id : SocketId} {t : ClientTurn}

theorem starts_iff {data : Bytes} (hmove : t.move = .send id data) :
    c.Starts id (.turn t) ↔ (c.stateAt id).status = .connected ∧
      (data ≠ [] ∨ (c.stateAt id).buffer.isEmpty = false) := by
  constructor
  · rintro ⟨data', hmove', hstarts⟩
    cases hmove.symm.trans hmove'
    exact hstarts
  · intro hstarts
    exact ⟨data, hmove, hstarts⟩

theorem not_starts (hsend : ∀ data, t.move ≠ .send id data) : ¬ c.Starts id (.turn t) := by
  rintro ⟨data, hmove, -⟩
  exact hsend data hmove

theorem not_stops_turn (c : TimedClient) (id : SocketId) (t : ClientTurn) :
    ¬ c.Stops id (.turn t) :=
  fun hstops => hstops

theorem not_stops_of_starts {t : TimedTurn} (hstarts : c.Starts id t) : ¬ c.Stops id t := by
  cases t with
  | turn t => exact c.not_stops_turn id t
  | look place now refuse => exact hstarts.elim

theorem not_closes_of_starts {t : TimedTurn} (hstarts : c.Starts id t) : ¬ c.Closes id t := by
  cases t with
  | turn t =>
    obtain ⟨data, hmove, -⟩ := hstarts
    rintro ⟨hclose, -⟩
    cases hmove.symm.trans hclose
  | look place now refuse => exact hstarts.elim

theorem timersOf_afterSend (c : TimedClient) (id j : SocketId) (busy : BusyClient) :
    (c.afterSend j busy).timersOf id = c.timersOf id ++ if j = id then
      List.range' c.started ((busy.client.stateAt j).timers - (c.stateAt j).timers) else [] := by
  rw [timersOf, afterSend, Timer.numbersOf_append, Timer.numbersOf_startedFor, timersOf]

theorem busy_afterClose (c : TimedClient) (j : SocketId) (busy : BusyClient) :
    (c.afterClose j busy).busy = busy := by
  unfold afterClose
  split <;> rfl

/-- What a turn other than a look does to the client below the timers. -/
theorem busy_turn (c : TimedClient) (hmove : ∀ j, t.move ≠ .timer j) :
    (c.step (.turn t)).busy = (c.busy.step t).1 := by
  simp only [step]
  split
  · next hmove' => exact absurd hmove' (hmove _)
  · rfl
  · exact busy_afterClose _ _ _
  · rfl

theorem stateAt_turn (hmove : ∀ j, t.move ≠ .timer j) :
    (c.step (.turn t)).stateAt id = (c.busy.step t).1.client.stateAt id := by
  rw [stateAt, busy_turn c hmove]

/-- A call to send after which its socket has as many timers as before starts none. -/
theorem timersOf_afterSend_of_eq {j : SocketId} {busy : BusyClient}
    (h : j = id → (busy.client.stateAt id).timing = (c.stateAt id).timing) :
    (c.afterSend j busy).timersOf id = c.timersOf id := by
  rw [timersOf_afterSend]
  split
  · next hj =>
    subst hj
    have hsame : (busy.client.stateAt j).timers = (c.stateAt j).timers :=
      congrArg Prod.snd (h rfl)
    simp [hsame]
  · simp

/-- A turn that is not about a socket leaves its timers alone. -/
theorem turned_of_ne (hsend : ∀ data, t.move ≠ .send id data) (hclose : t.move ≠ .close id) :
    c.Turned id (.turn t) := by
  have htiming : ((c.step (.turn t)).stateAt id).timing = (c.stateAt id).timing := by
    by_cases htimer : ∃ j, t.move = .timer j
    · obtain ⟨j, hmove⟩ := htimer
      simp only [step, hmove]
    · rw [stateAt_turn fun j hmove => htimer ⟨j, hmove⟩]
      exact BusyClient.timers_step hsend (fun hmove => htimer ⟨id, hmove⟩) hclose
  have hsame : (c.step (.turn t)).timersOf id = c.timersOf id := by
    simp only [step]
    split
    · rfl
    · next j data hmove =>
      apply timersOf_afterSend_of_eq
      rintro rfl
      exact absurd hmove (hsend data)
    · next j hmove =>
      have hj : j ≠ id := by
        rintro rfl
        exact hclose hmove
      rw [afterClose]
      split
      · exact Timer.numbersOf_afterClose_of_ne hj _
      · rfl
    · rfl
  exact .kept htiming hsame (c.not_stops_turn id t) (fun hcloses => hclose hcloses.1)
    fun hstarts => absurd hstarts (not_starts hsend)

/-- **A call to send** starts a timer if there is none and anything to send. -/
theorem Manned.turned_send (h : c.Manned id) {data : Bytes} (hmove : t.move = .send id data) :
    c.Turned id (.turn t) := by
  have hstep : c.step (.turn t) = c.afterSend id (c.busy.step t).1 := by
    simp only [step, hmove]
  have hclient : (c.busy.step t).1.client = (c.busy.client.send id data t.now t.refuse).state := by
    rw [BusyClient.step, hmove]
    rfl
  -- nothing happens to the timers unless there is none and one starts
  have hkept : (c.Starts id (.turn t) → (c.stateAt id).timerRunning = true ∧ c.timersOf id ≠ []) →
      c.Turned id (.turn t) := by
    intro hrunning
    have htiming : ((c.busy.step t).1.client.stateAt id).timing = (c.stateAt id).timing := by
      rw [hclient]
      apply Client.timers_send_of_running
      intro hconnected hsome
      exact (hrunning ((starts_iff hmove).2 ⟨hconnected, hsome⟩)).1
    refine .kept ?_ ?_ (c.not_stops_turn id t) (fun hcloses => ?_)
      fun hstarts => (hrunning hstarts).2
    · rw [stateAt_turn (by simp [hmove]), htiming]
    · rw [hstep, timersOf_afterSend_of_eq fun _ => htiming]
    · cases hmove.symm.trans hcloses.1
  cases h with
  | one htiming hone => exact hkept fun _ => ⟨congrArg Prod.fst htiming, by simp [hone]⟩
  | none htiming hnone =>
    by_cases hstarts : c.Starts id (.turn t)
    · obtain ⟨hconnected, hsome⟩ := (starts_iff hmove).1 hstarts
      have hrunning : (c.stateAt id).timerRunning = false := congrArg Prod.fst htiming
      have htimers : (c.stateAt id).timers = 0 := congrArg Prod.snd htiming
      have hone := Client.timers_send hconnected hsome hrunning t.now t.refuse
      rw [← hclient, show (c.busy.client.stateAt id).timers = 0 from htimers] at hone
      refine .started hstarts hnone ?_ ?_
      · rw [stateAt_turn (by simp [hmove]), hone]
      · have hcount : ((c.busy.step t).1.client.stateAt id).timers = 1 := congrArg Prod.snd hone
        simp [hstep, timersOf_afterSend, hnone, hcount, htimers]
    · exact hkept fun hstarts' => absurd hstarts' hstarts

/-- **Closing a socket** takes its timer from it. -/
theorem turned_close (hmove : t.move = .close id) : c.Turned id (.turn t) := by
  have hstep : c.step (.turn t) = c.afterClose id (c.busy.step t).1 := by
    simp only [step, hmove]
  by_cases hclosed : (c.stateAt id).status = .closed
  · have hgone := BusyClient.socket?_step_close hmove hclosed
    refine .closed ⟨hmove, hclosed⟩ ?_ ?_
    · rw [stateAt_turn (by simp [hmove]), Client.stateAt_of_none hgone]
      rfl
    · rw [hstep, afterClose, hgone]
      exact Timer.numbersOf_afterClose_self _
  · have hsame := BusyClient.step_close_of_ne hmove hclosed
    obtain ⟨s, hs, -⟩ := Client.exists_socket hclosed
    have hkept : c.step (.turn t) = c := by
      rw [hstep, hsame, afterClose, hs]
    refine .kept ?_ ?_ (c.not_stops_turn id t) (fun hcloses => hclosed hcloses.2) ?_
    · rw [hkept]
    · rw [hkept]
    · rintro ⟨data, hmove', -⟩
      cases hmove.symm.trans hmove'

/-- A look of the timer of a socket. -/
theorem look_eq {place : Nat} {timer : Timer} {j : SocketId}
    (htimer : c.timers[place]? = some timer) (hsocket : timer.socket = some j) (now : Nat)
    (refuse : Refusal Error) :
    c.look place now refuse =
      { c with
        busy := (c.busy.step { move := .timer j, now, refuse }).1
        timers := if (c.stateAt j).AtRest then c.timers.eraseIdx place else c.timers } := by
  simp [look, found, htimer, hsocket]

/-- A timer that has lost its socket stops. -/
theorem look_of_none {place : Nat} {timer : Timer} (htimer : c.timers[place]? = some timer)
    (hsocket : timer.socket = none) (now : Nat) (refuse : Refusal Error) :
    c.look place now refuse = { c with timers := c.timers.eraseIdx place } := by
  simp [look, found, htimer, hsocket, ClientConnection.AtRest]

/-- A look of a timer of another socket. -/
theorem turned_look_of_ne {place now : Nat} {refuse : Refusal Error}
    (hother : ∀ timer, c.timers[place]? = some timer → timer.socket ≠ some id) :
    c.Turned id (.look place now refuse) := by
  have hboth : ((c.look place now refuse).stateAt id).timing = (c.stateAt id).timing ∧
      (c.look place now refuse).timersOf id = c.timersOf id := by
    cases htimer : c.timers[place]? with
    | none => simp [look, htimer]
    | some timer =>
      have hne := hother timer htimer
      cases hsocket : timer.socket with
      | none =>
        rw [look_of_none htimer hsocket]
        exact ⟨rfl, Timer.numbersOf_eraseIdx_of_ne htimer hne⟩
      | some j =>
        rw [look_eq htimer hsocket]
        constructor
        · refine BusyClient.timers_step nofun (fun hmove => ?_) nofun
          cases hmove
          exact hne hsocket
        · rw [timersOf]
          dsimp only
          split
          · exact Timer.numbersOf_eraseIdx_of_ne htimer hne
          · rfl
  refine .kept hboth.1 hboth.2 ?_ nofun nofun
  rintro ⟨timer, htimer, hsocket, -⟩
  exact hother timer htimer hsocket

/-- **A look of the timer** makes it stop if it has nothing to do. -/
theorem Manned.turned_look (h : c.Manned id) {place now : Nat} {refuse : Refusal Error}
    {timer : Timer} (htimer : c.timers[place]? = some timer) (hsocket : timer.socket = some id) :
    c.Turned id (.look place now refuse) := by
  have hstep : c.step (.look place now refuse) = _ := look_eq htimer hsocket now refuse
  have hstate : (c.step (.look place now refuse)).stateAt id =
      (c.busy.client.pollTimer id now refuse).state.stateAt id := by
    rw [hstep]
    rfl
  cases h with
  | none _ hnone =>
    have hmine := Timer.mem_numbersOf (List.mem_of_getElem? htimer) hsocket
    rw [← timersOf, hnone] at hmine
    cases hmine
  | one htiming hone =>
    by_cases hrest : (c.stateAt id).AtRest
    · have htimers : (c.busy.client.stateAt id).timers = 1 := congrArg Prod.snd htiming
      refine .stopped ⟨timer, htimer, hsocket, hrest⟩ ?_ ?_
      · rw [hstate, Client.timers_pollTimer (by simp [htimers]) hrest, htimers]
      · rw [hstep, timersOf]
        dsimp only
        rw [if_pos hrest, Timer.numbersOf_eraseIdx_of_singleton htimer hsocket hone]
    · refine .kept ?_ ?_ ?_ nofun nofun
      · rw [hstate]
        exact Client.timers_pollTimer_of_not_atRest hrest now refuse
      · rw [hstep, timersOf]
        dsimp only
        rw [if_neg hrest, timersOf]
      · rintro ⟨_, _, _, hrest'⟩
        exact hrest hrest'

/-- **What a turn does to the timers of a socket.** -/
theorem Manned.turned (h : c.Manned id) (t : TimedTurn) : c.Turned id t := by
  cases t with
  | turn t =>
    by_cases hclose : t.move = .close id
    · exact turned_close hclose
    · by_cases hsend : ∃ data, t.move = .send id data
      · obtain ⟨data, hmove⟩ := hsend
        exact h.turned_send hmove
      · exact turned_of_ne (fun data hmove => hsend ⟨data, hmove⟩) hclose
  | look place now refuse =>
    by_cases hmine : ∃ timer, c.timers[place]? = some timer ∧ timer.socket = some id
    · obtain ⟨timer, htimer, hsocket⟩ := hmine
      exact h.turned_look htimer hsocket
    · exact turned_look_of_ne fun timer htimer hsocket => hmine ⟨timer, htimer, hsocket⟩

/-- **A turn leaves a socket with one timer** while it counts on one, and with none otherwise. -/
theorem Manned.step (h : c.Manned id) (t : TimedTurn) : (c.step t).Manned id := by
  cases h.turned t with
  | kept htiming hsame =>
    cases h with
    | one hbefore hone => exact .one (htiming.trans hbefore) (hsame.trans hone)
    | none hbefore hnone => exact .none (htiming.trans hbefore) (hsame.trans hnone)
  | started _ _ htiming hone => exact .one htiming hone
  | stopped _ htiming hnone => exact .none htiming hnone
  | closed _ htiming hnone => exact .none htiming hnone

theorem Manned.run (h : c.Manned id) (turns : List TimedTurn) : (c.run turns).Manned id := by
  induction turns generalizing c with
  | nil => exact h
  | cons t turns ih => exact ih (h.step t)

/-! ### Runs -/

/-- A turn does something to the client below the timers, or nothing.  No timer connects a
socket. -/
theorem busy_step (c : TimedClient) (t : TimedTurn) :
    (c.step t).busy = c.busy ∨ ∃ turn, (c.step t).busy = (c.busy.step turn).1 ∧
      ∀ id node port, turn.move = .connect id node port → t = .turn turn := by
  cases t with
  | turn t =>
    by_cases htimer : ∃ j, t.move = .timer j
    · obtain ⟨j, hmove⟩ := htimer
      left
      simp only [step, hmove]
    · right
      exact ⟨t, busy_turn c fun j hmove => htimer ⟨j, hmove⟩, fun _ _ _ _ => rfl⟩
  | look place now refuse =>
    cases htimer : c.timers[place]? with
    | none =>
      left
      simp only [step, look, htimer]
    | some timer =>
      cases hsocket : timer.socket with
      | none =>
        left
        rw [step, look_of_none htimer hsocket]
      | some id =>
        right
        rw [step, look_eq htimer hsocket]
        exact ⟨_, rfl, nofun⟩

/-- A call to connect begins on a socket on which a call to disconnect still waits. -/
def Reconnects (c : TimedClient) (id : SocketId) : TimedTurn → Prop
  | .turn t => (∃ node port, t.move = .connect id node port) ∧
      c.busy.client.statusAt id = some .closed ∧ c.busy.Leaving id
  | .look .. => False

/-- Some call to connect has begun on a socket on which a call to disconnect still waited. -/
def Overlaps (c : TimedClient) (turns : List TimedTurn) (id : SocketId) : Prop :=
  ∃ before t after, turns = before ++ t :: after ∧ (c.run before).Reconnects id t

theorem overlaps_concat_iff {turns : List TimedTurn} {t : TimedTurn} :
    c.Overlaps (turns ++ [t]) id ↔ (c.run turns).Reconnects id t ∨ c.Overlaps turns id :=
  exists_split_concat_iff (p := fun before t _ => (c.run before).Reconnects id t)

/-- **Nothing is left without a timer** in a run. -/
theorem covered_run (h : c.busy.Covered id (c.stateAt id)) (turns : List TimedTurn) :
    (c.run turns).busy.Covered id ((c.run turns).stateAt id) := by
  induction turns generalizing c with
  | nil => exact h
  | cons t turns ih =>
    apply ih
    rw [stateAt]
    rcases c.busy_step t with hsame | ⟨turn, hturn, -⟩
    · rw [hsame]
      exact h
    · rw [hturn]
      exact h.step turn

/-- A socket on which a call to disconnect waits has no connection any more, unless it was connected
again. -/
theorem status_run (hstart : ¬ c.busy.Leaving id) (turns : List TimedTurn)
    (hoverlaps : ¬ c.Overlaps turns id) (st : Status) (hleaving : (c.run turns).busy.Leaving id)
    (hs : (c.run turns).busy.client.statusAt id = some st) : st = .finWait ∨ st = .closed := by
  induction turns using List.reverseRecOn generalizing st with
  | nil => exact absurd hleaving hstart
  | append_singleton turns t ih =>
    rw [overlaps_concat_iff, not_or] at hoverlaps
    rw [run_concat] at hleaving hs
    rcases (c.run turns).busy_step t with hsame | ⟨turn, hturn, hconnect⟩
    · rw [hsame] at hleaving hs
      exact ih hoverlaps.2 st hleaving hs
    · rw [hturn] at hleaving hs
      refine BusyClient.status_of_leaving (ih hoverlaps.2) ?_ hleaving hs
      intro node port hmove hclosed hwaits
      apply hoverlaps.1
      rw [hconnect id node port hmove]
      exact ⟨⟨node, port, hmove⟩, hclosed, hwaits⟩

/-- Every timer has one of the numbers that were given to timers. -/
def Numbered (c : TimedClient) : Prop :=
  ∀ timer ∈ c.timers, timer.number < c.started

/-- A turn may give a number to a timer, and takes none back. -/
theorem Numbered.step (h : c.Numbered) (t : TimedTurn) :
    (c.step t).Numbered ∧ c.started ≤ (c.step t).started := by
  cases t with
  | turn t =>
    simp only [TimedClient.step]
    split
    · exact ⟨h, Nat.le_refl _⟩
    · refine ⟨fun timer hmem => ?_, Nat.le_add_right _ _⟩
      rcases List.mem_append.1 hmem with hold | hnew
      · exact Nat.lt_add_right _ (h timer hold)
      · obtain ⟨number, hnumber, rfl⟩ := List.mem_map.1 hnew
        exact (List.mem_range'_1.1 hnumber).2
    · rw [afterClose]
      split
      · refine ⟨fun timer hmem => ?_, Nat.le_refl _⟩
        obtain ⟨before, hold, rfl⟩ := List.mem_map.1 hmem
        rw [Timer.number_afterClose]
        exact h before hold
      · exact ⟨h, Nat.le_refl _⟩
    · exact ⟨h, Nat.le_refl _⟩
  | look place now refuse =>
    simp only [TimedClient.step, look]
    split
    · exact ⟨h, Nat.le_refl _⟩
    · refine ⟨fun timer hmem => ?_, Nat.le_refl _⟩
      dsimp only at hmem
      split at hmem
      · exact h timer (List.mem_of_mem_eraseIdx hmem)
      · exact h timer hmem

theorem Numbered.run (h : c.Numbered) (turns : List TimedTurn) :
    (c.run turns).Numbered ∧ c.started ≤ (c.run turns).started := by
  induction turns generalizing c with
  | nil => exact ⟨h, Nat.le_refl _⟩
  | cons t turns ih =>
    obtain ⟨hnext, hle⟩ := h.step t
    obtain ⟨hlast, hle'⟩ := ih hnext
    exact ⟨hlast, Nat.le_trans hle hle'⟩

/-- What was numbered in the course of a run has another number than the timer that starts next. -/
theorem Numbered.number_ne (h : c.Numbered) {turns front : List TimedTurn}
    (hfront : front <+: turns) {timer : Timer} (hmem : timer ∈ (c.run front).timers) :
    timer.number ≠ (c.run turns).started := by
  obtain ⟨back, rfl⟩ := hfront
  obtain ⟨hnumbered, -⟩ := h.run front
  obtain ⟨-, hle⟩ := hnumbered.run back
  have hlt := hnumbered timer hmem
  rw [run_append]
  omega

/-- A connection with anything to send has a timer, unless it overlaps with the end of another. -/
theorem timed_run (hcovered : c.busy.Covered id (c.stateAt id)) (hstart : ¬ c.busy.Leaving id)
    (turns : List TimedTurn) (hconnected : ((c.run turns).stateAt id).status = .connected)
    (hsome : ((c.run turns).stateAt id).buffer.isEmpty = false) :
    ((c.run turns).stateAt id).timerRunning = true ∨
      (c.run turns).busy.Leaving id ∧ c.Overlaps turns id := by
  cases covered_run hcovered turns with
  | empty hnone => cases hnone.symm.trans hsome
  | timed _ hrunning => exact .inl hrunning
  | leaving hleaving =>
    refine .inr ⟨hleaving, ?_⟩
    by_contra hoverlaps
    have hopen : ((c.run turns).busy.client.stateAt id).status ≠ .closed := by
      rw [← stateAt, hconnected]
      decide
    obtain ⟨s, hs, hstate⟩ := Client.exists_socket hopen
    have hat := Client.statusAt_of_socket? hs
    rw [← hstate, ← stateAt, hconnected] at hat
    have hleft := status_run hstart turns hoverlaps _ hleaving hat
    simp at hleft

/-- A client before its first turn. -/
def ofClient (c : Client) : TimedClient :=
  { busy := { client := c } }

theorem not_leaving_ofClient (c : Client) (id : SocketId) : ¬ (ofClient c).busy.Leaving id := by
  rintro ⟨call, hmem, -⟩
  cases hmem

theorem stateAt_ofClient {settings : Settings} {c : Client}
    (hstart : Client.start settings = .ok c) (id : SocketId) : (ofClient c).stateAt id = {} := by
  obtain ⟨-, rfl⟩ := Client.start_eq_ok hstart
  exact Client.stateAt_of_none (SocketTable.socket?_free _ id)

/-- **One timer for each busy connection.**  After any turns of a client, in which the link may
refuse anything: a socket counts on a timer exactly while it has one, it never has two, and it has
as many as its connection knows of.  If a socket is connected and has anything to send, then it
counts on a timer; the only exception is a socket that was connected again while a call to
disconnect it still waited, until this call returns.  The timer of a socket stops when it looks at
the socket and finds no connection or nothing to send.  If there is none, then the next call to send
that finds a connection and has any bytes for it starts one, which is not one of those that were
there before.  Apart from that, no timer of a socket starts, and only closing the socket takes its
timer from it. -/
theorem one_timer {settings : Settings} {client : Client}
    (hstart : Client.start settings = .ok client) (turns : List TimedTurn) (id : SocketId)
    {c : TimedClient} (hrun : (ofClient client).run turns = c) :
    ((c.stateAt id).timerRunning = true ∧ (∃ n, c.timersOf id = [n]) ∨
      (c.stateAt id).timerRunning = false ∧ c.timersOf id = []) ∧
    (c.stateAt id).timers = (c.timersOf id).length ∧
    ((c.stateAt id).status = .connected → (c.stateAt id).buffer.isEmpty = false →
      (c.stateAt id).timerRunning = true ∨
        c.busy.Leaving id ∧ (ofClient client).Overlaps turns id) ∧
    (∀ t, c.Stops id t → (c.step t).timersOf id = []) ∧
    (∀ t, c.Starts id t → c.timersOf id = [] →
      (c.step t).timersOf id = [c.started] ∧
        ∀ front, front <+: turns → ∀ timer ∈ ((ofClient client).run front).timers,
          timer.number ≠ c.started) ∧
    ∀ t, ¬ c.Stops id t → ¬ c.Closes id t → (c.Starts id t → c.timersOf id ≠ []) →
      (c.step t).timersOf id = c.timersOf id := by
  subst hrun
  have hnew := stateAt_ofClient hstart id
  have hcovered : (ofClient client).busy.Covered id ((ofClient client).stateAt id) := by
    rw [hnew]
    exact .empty rfl
  have hmanned : ((ofClient client).run turns).Manned id := by
    refine Manned.run (.none ?_ rfl) turns
    rw [hnew]
    rfl
  refine ⟨?_, hmanned.timers_eq, timed_run hcovered (not_leaving_ofClient client id) turns,
    ?_, ?_, ?_⟩
  · cases hmanned with
    | one htiming hone => exact .inl ⟨congrArg Prod.fst htiming, _, hone⟩
    | none htiming hnone => exact .inr ⟨congrArg Prod.fst htiming, hnone⟩
  · intro t hstops
    cases hmanned.turned t with
    | kept _ _ hgoes => exact absurd hstops hgoes
    | started hstarts => exact absurd hstops (not_stops_of_starts hstarts)
    | stopped _ _ hnone => exact hnone
    | closed _ _ hnone => exact hnone
  · intro t hstarts hnone
    have hnumbered : (ofClient client).Numbered := nofun
    cases hmanned.turned t with
    | kept _ _ _ _ hsome => exact absurd hnone (hsome hstarts)
    | started _ _ _ hone => exact ⟨hone, fun front hfront timer => hnumbered.number_ne hfront⟩
    | stopped hstops => exact absurd hstops (not_stops_of_starts hstarts)
    | closed hcloses => exact absurd hcloses (not_closes_of_starts hstarts)
  · intro t hstops hcloses hstarts
    cases hmanned.turned t with
    | kept _ hsame => exact hsame
    | started hnow hnone => exact absurd hnone (hstarts hnow)
    | stopped hnow => exact absurd hnow hstops
    | closed hnow => exact absurd hnow hcloses

/-! ### A connection after another -/

/-- The first connection of a socket, whose timer is still there when a call to disconnect has
returned. -/
def firstConnection : List TimedTurn :=
  (BusyClient.twoConnections.take 10).map .turn

/-- The look at which the timer stops, and the second connection up to the byte that is sent. -/
def secondConnection : List TimedTurn :=
  .look 0 3 neverRefused :: ((BusyClient.twoConnections.drop 10).take 4).map .turn

/-- The timer of the first connection stops when it looks at its socket after the end of the
connection, and the byte that is sent in the second connection starts another timer. -/
theorem one_timer_twoConnections :
    Client.start {} = .ok ⟨{}, .free 10⟩ ∧
      ((ofClient ⟨{}, .free 10⟩).run firstConnection).timersOf 0 = [0] ∧
      (((ofClient ⟨{}, .free 10⟩).run firstConnection).step (.look 0 3 neverRefused)).timersOf 0 =
        [] ∧
      (((ofClient ⟨{}, .free 10⟩).run (firstConnection ++ secondConnection)).step
        (.turn { move := .send 0 [6], now := 6 })).timersOf 0 = [1] := by
  have hstart : Client.start {} = .ok ⟨{}, .free 10⟩ := rfl
  obtain ⟨-, -, -, hstops, -, -⟩ := one_timer hstart firstConnection 0 rfl
  obtain ⟨-, -, -, -, hstarts, -⟩ := one_timer hstart (firstConnection ++ secondConnection) 0 rfl
  have hlook : ((ofClient ⟨{}, .free 10⟩).run firstConnection).Stops 0 (.look 0 3 neverRefused) :=
    ⟨⟨0, some 0⟩, by decide +kernel, rfl, by decide +kernel⟩
  have hsend : ((ofClient ⟨{}, .free 10⟩).run (firstConnection ++ secondConnection)).Starts 0
      (.turn { move := .send 0 [6], now := 6 }) :=
    ⟨[6], rfl, by decide +kernel, .inl (by decide)⟩
  have hnext :
      ((ofClient ⟨{}, .free 10⟩).run (firstConnection ++ secondConnection)).started = 1 := by
    decide +kernel
  obtain ⟨hone, -⟩ := hstarts _ hsend (by decide +kernel)
  rw [hnext] at hone
  exact ⟨hstart, by decide +kernel, hstops _ hlook, hone⟩

/-- A call to connect begins when the end of the first connection is confirmed, but before the call
to disconnect returns.  The timer looks at the socket before the second connection is granted. -/
def overlappingConnections : List TimedTurn :=
  (BusyClient.twoConnections.take 9).map .turn ++
    [.turn { move := .connect 0 2 8 }, .look 0 4 neverRefused,
      .turn { move := .handle ((Segment.synOf 7 8 3).reply .synAck 4), now := 5 }]

/-- The second connection has a byte to send then, but no timer.  And when the timer of the first
connection has stopped, a call to send starts none as long as the socket is closed. -/
theorem timerless_connections :
    Client.start {} = .ok ⟨{}, .free 10⟩ ∧
      (let c := (ofClient ⟨{}, .free 10⟩).run overlappingConnections
      (c.stateAt 0).status = .connected ∧ (c.stateAt 0).buffer.isEmpty = false ∧
        (c.stateAt 0).timerRunning = false ∧ c.timersOf 0 = []) ∧
      let c := (ofClient ⟨{}, .free 10⟩).run firstConnection
      let rested := c.step (.look 0 3 neverRefused)
      c.timersOf 0 = [0] ∧ rested.timersOf 0 = [] ∧
        (rested.step (.turn { move := .send 0 [6], now := 4 })).timersOf 0 = [] := by
  refine ⟨rfl, ?_, ?_⟩ <;> decide +kernel

end TimedClient

end OverlayStack.Transport
