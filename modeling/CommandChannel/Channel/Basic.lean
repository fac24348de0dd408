import CommandChannel.Link.Transfer
import CommandChannel.Stats

/-!
# Managers of a connection

A manager keeps one connection to a peer: it connects on request, sends commands one at a time and
waits for their replies, connects again after a loss, and ends the connection on request. While it
is connected a heartbeat monitor asks the peer for a sign of life when nothing else happens.

A channel is a manager in its world. Everything a manager does is a function on channels.

The counts of a manager have no limit here. They stand for numbers of 32 bits (`attempts` and
`owedReplies`) and of 64 bits (`epoch`), and agree with them as long as these do not overflow.
-/

namespace CommandChannel

/-- A manager. Its counts agree with the bounded numbers they stand for, as long as they stay below
the limits of these. -/
structure Manager where
  config : Config
  /-- The state as the manager itself sees it. -/
  state : LinkState := .disconnected
  /-- The state as seen by those who do not wait for the manager. -/
  published : LinkState := .disconnected
  /-- The connection. -/
  link : Option Link := none
  /-- Attempts to connect again that failed since the last success, if fewer than 2 ^ 32. -/
  attempts : Nat := 0
  /-- Replies that the peer has still to send on this connection, if fewer than 2 ^ 32. -/
  owedReplies : Nat := 0
  stats : Stats := {}
  /-- The running heartbeat monitor. -/
  heartbeat : Option Heartbeat.Handle := none
  /-- The number of times that the connection was ended by request, if fewer than 2 ^ 64. A monitor
  of an earlier epoch is of no effect. -/
  epoch : Nat := 0
  /-- When a connection was made or a command answered for the last time. -/
  lastActivity : Duration := .zero

/-- A manager in its world. -/
structure Channel where
  manager : Manager
  world : World

namespace Channel

/-- A manager at rest, at the beginning of a world. -/
def start (config : Config) (world : World) : Channel :=
  ⟨{ config, lastActivity := world.now }, world⟩

/-- Something happens. -/
def record (event : Event) (s : Channel) : Channel := { s with world := s.world.record event }

/-- Something is told to watchers. -/
def tell (notice : Notice) (s : Channel) : Channel := { s with world := s.world.tell notice }

/-- The statistics change. -/
def count (f : Stats → Stats) (s : Channel) : Channel :=
  { s with manager := { s.manager with stats := f s.manager.stats } }

/-- The present moment. -/
def now (s : Channel) : Duration := s.world.now

/-- The time since the last activity. -/
def idle (s : Channel) : Duration := s.now - s.manager.lastActivity

/-- The manager goes over to a state. -/
def transition (next : LinkState) (s : Channel) : Channel :=
  let before := s.manager.state
  let s := if before = next then s else s.record (.change before next)
  { s with manager := { s.manager with state := next, published := next } }

/-- There was activity just now. -/
def touch (s : Channel) : Channel :=
  { s with manager := { s.manager with lastActivity := s.now } }

/-- The connection is given up, if there is one. -/
def closeLink (s : Channel) : Channel :=
  match s.manager.link with
  | none => s
  | some link =>
    match link.shutdown s.world with
    | (_, _, world) =>
      { s with
        manager := { s.manager with link := none }
        world := world.record (.closed link.number) }

/-- The connection has failed. -/
def fail (s : Channel) : Channel :=
  let s := s.closeLink
  (s.count fun stats => { stats with lastError := some s.now }).transition .error

end Channel

end CommandChannel
