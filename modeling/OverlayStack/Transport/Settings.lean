import OverlayStack.Text.Decimal
import OverlayStack.Wire.Segment

/-!
# Settings of the transport layer

Times are in milliseconds.

## Main definitions

* `Transport.Settings` — the limits, retry counts and times of clients and servers.
* `Transport.Settings.validate` — the first thing that is wrong with some settings.
-/

namespace OverlayStack.Transport

/-- The limits, retry counts and times of clients and servers. -/
structure Settings where
  /-- How many sockets can be open at once. -/
  maxConnections : Nat := 10
  /-- The most bytes in one segment. -/
  maxSegment : Nat := Segment.maxPayload
  /-- How many segments can be in flight at once. -/
  window : Nat := 10
  /-- How many received bytes a socket holds. -/
  receiveCapacity : Nat := 1000000
  /-- How long to wait for the answer to a request to connect. -/
  synTimeout : Nat := 100
  /-- How many requests to connect are sent. -/
  synAttempts : Nat := 5
  /-- How long to wait for the answer to a request to disconnect. -/
  finTimeout : Nat := 100
  /-- How many requests to disconnect are sent. -/
  finAttempts : Nat := 5
  /-- How long a segment is in flight before everything in flight is sent again. -/
  dataTimeout : Nat := 100
  /-- The time between two looks at a send buffer. -/
  sendPoll : Nat := 10
  /-- The time between two looks at a listening socket. -/
  acceptPoll : Nat := 100
  /-- The time between two looks at a receive buffer. -/
  receivePoll : Nat := 1000
  /-- How long a socket stays in the state after the peer's request to disconnect. -/
  closeWait : Nat := 1000
  /-- The probability that a segment is hit on the way in. -/
  lossRate : Float := 0.1

namespace Settings

/-- What can be wrong with settings. -/
inductive Error where
  /-- Segments are empty or longer than a link carries. -/
  | segmentLimit (n : Nat)
  /-- No segment can be in flight. -/
  | noWindow
  /-- No socket can be open. -/
  | noConnections
  /-- Requests to connect or disconnect are never sent. -/
  | noAttempts
  /-- The loss rate is no probability. -/
  | lossRate (rate : Float)

/-- The wording of a settings error. -/
def Error.message : Error → String
  | segmentLimit n => s!"max_seg_len is {n} but must be in 1..={Segment.maxPayload}."
  | noWindow => "GBN window must not be zero."
  | noConnections => "max_connections must not be zero."
  | noAttempts => "SYN/FIN retry counts must not be zero."
  | lossRate rate => s!"loss_rate {Decimal.text rate} is out of range [0, 1]."

/-- The first thing that is wrong with some settings. -/
def validate (s : Settings) : Except Error Unit :=
  if s.maxSegment = 0 ∨ s.maxSegment > Segment.maxPayload then .error (.segmentLimit s.maxSegment)
  else if s.window = 0 then .error .noWindow
  else if s.maxConnections = 0 then .error .noConnections
  else if s.synAttempts = 0 ∨ s.finAttempts = 0 then .error .noAttempts
  else if 0 ≤ s.lossRate ∧ s.lossRate ≤ 1 then .ok ()
  else .error (.lossRate s.lossRate)

end Settings

end OverlayStack.Transport
