import CommandChannel.Duration

/-!
# Statistics of a connection

Counters only grow; moments are those of the last event of their kind. A connection keeps its
counters in 64 bits, and here they have no limit: the two agree as long as no counter has come up to
2 ^ 64, and nothing is said of what a counter shows after that.
-/

namespace CommandChannel

/-- What has happened so far. Counters and sums of bytes stand for numbers of 64 bits, and agree
with them below 2 ^ 64. -/
structure Stats where
  /-- Connections made. -/
  connects : Nat := 0
  /-- Attempts to connect that failed. -/
  failures : Nat := 0
  /-- Attempts to connect again. -/
  reconnects : Nat := 0
  /-- Commands sent. -/
  sent : Nat := 0
  /-- Replies received, late ones included. -/
  replies : Nat := 0
  /-- Commands that were not answered in time. -/
  timeouts : Nat := 0
  /-- Heartbeat monitors started. -/
  heartbeats : Nat := 0
  /-- Bytes of the commands sent. -/
  bytesSent : Nat := 0
  /-- Bytes of the replies received. -/
  bytesReceived : Nat := 0
  /-- When a connection was made for the last time. -/
  lastConnected : Option Duration := none
  /-- When a connection was ended by request for the last time. -/
  lastDisconnected : Option Duration := none
  /-- When something failed for the last time. -/
  lastError : Option Duration := none
deriving DecidableEq, Repr

namespace Stats

/-- A connection was made. -/
def recordConnect (now : Duration) (s : Stats) : Stats :=
  { s with connects := s.connects + 1, lastConnected := some now }

/-- The connection was ended by request. -/
def recordDisconnect (now : Duration) (s : Stats) : Stats := { s with lastDisconnected := some now }

/-- An attempt to connect failed. -/
def recordFailure (now : Duration) (s : Stats) : Stats :=
  { s with failures := s.failures + 1, lastError := some now }

/-- An attempt to connect again begins. -/
def recordReconnect (s : Stats) : Stats := { s with reconnects := s.reconnects + 1 }

/-- A command of so many bytes was sent. -/
def recordSend (bytes : Nat) (s : Stats) : Stats :=
  { s with sent := s.sent + 1, bytesSent := s.bytesSent + bytes }

/-- A reply of so many bytes was received. -/
def recordReceive (bytes : Nat) (s : Stats) : Stats :=
  { s with replies := s.replies + 1, bytesReceived := s.bytesReceived + bytes }

/-- A command was not answered in time. -/
def recordTimeout (now : Duration) (s : Stats) : Stats :=
  { s with timeouts := s.timeouts + 1, lastError := some now }

/-- A heartbeat monitor was started. -/
def recordHeartbeat (s : Stats) : Stats := { s with heartbeats := s.heartbeats + 1 }

/-- The time since the last connection was made. -/
def uptime (now : Duration) (s : Stats) : Option Duration := s.lastConnected.map fun t => now - t

/-- Something that is recorded, or time that passes. -/
inductive Step where
  | connect
  | disconnect
  | failure
  | reconnect
  | send (bytes : Nat)
  | receive (bytes : Nat)
  | timeout
  | heartbeat
  | advance (span : Duration)
deriving DecidableEq, Repr

/-- The statistics and the moment after a step. -/
def step (now : Duration) (s : Stats) : Step → Duration × Stats
  | .connect => (now, s.recordConnect now)
  | .disconnect => (now, s.recordDisconnect now)
  | .failure => (now, s.recordFailure now)
  | .reconnect => (now, s.recordReconnect)
  | .send bytes => (now, s.recordSend bytes)
  | .receive bytes => (now, s.recordReceive bytes)
  | .timeout => (now, s.recordTimeout now)
  | .heartbeat => (now, s.recordHeartbeat)
  | .advance span => (now + span, s)

end Stats

end CommandChannel
