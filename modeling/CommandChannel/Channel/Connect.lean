import CommandChannel.Channel.Basic
import CommandChannel.Link.Dial

/-!
# Connecting

A connection is made by one attempt on request, or by several attempts with pauses after a loss.
Both go through the same attempt, which looks up the peer, connects to it and starts the heartbeat
if none runs. The number of failed attempts outlives a failure, so that a peer that stays away is
not tried for ever; a success sets it back.
-/

namespace CommandChannel

namespace Channel

/-- A heartbeat monitor runs, if one is wanted and can be started. -/
def ensureHeartbeat (s : Channel) : Channel :=
  match s.manager.config.activeInterval, s.manager.heartbeat with
  | none, _ => s
  | some _, some _ => s
  | some interval, none =>
    match s.world.spawn s.manager.epoch interval with
    | (.ok thread, world) =>
      let handle := ⟨s.manager.epoch, thread⟩
      ({ manager := { s.manager with heartbeat := some handle }, world } : Channel).count
        Stats.recordHeartbeat
    | (.error error, world) => { s with world }.tell (.heartbeatNotStarted error)

/-- The manager has a connection. -/
def establish (link : Link) (s : Channel) : Channel :=
  let s := s.tell (.connected link.peerAddr)
  let s := { s with
    manager := { s.manager with link := some link, attempts := 0, owedReplies := 0 } }
  (((s.count (Stats.recordConnect s.now)).transition .connected).touch).ensureHeartbeat

/-- Look up the peer and connect to it. -/
def dial (s : Channel) : Except ChannelError Link × Channel :=
  let names := s.world.known
  let s := { s with world := s.world.lookUp s.manager.config.host }
  match s.manager.config.socketAddrs names with
  | .error error => (.error (.io error), s)
  | .ok addrs =>
    match Link.connect addrs s.manager.config.ioTimeout s.world with
    | (result, world) => (result, { s with world })

/-- One attempt to open a connection. A failure leaves the state as it is. -/
def openLink (s : Channel) : Except ChannelError Unit × Channel :=
  match s.closeLink.dial with
  | (.error e, s) => (.error e, s)
  | (.ok link, s) => (.ok (), s.establish link)

/-- Connect on request. Returns whether there is a connection. -/
def connect (s : Channel) : Bool × Channel :=
  if s.manager.state.isConnected then
    (true, s.tell .alreadyConnected)
  else
    match (s.transition .connecting).openLink with
    | (.ok (), s) => (true, s)
    | (.error e, s) =>
      let s := s.tell (.connectFailed s.manager.config.endpoint e)
      (false, (s.count (Stats.recordFailure s.now)).fail)

/-- The pause before an attempt to connect again. -/
def pause (attempt : Nat) (span : Duration) (s : Channel) : Channel :=
  let s := s.tell (.reconnecting attempt s.manager.config.backoff.maxAttempts span)
  { s with world := s.world.sleep span }

/-- An attempt to connect again. -/
def attempt (s : Channel) : Bool × Channel :=
  match (s.count Stats.recordReconnect).openLink with
  | (.ok (), s) => (true, s)
  | (.error e, s) =>
    let s := s.tell (.reconnectFailed e)
    (false, s.count (Stats.recordFailure s.now))

/-- Connect again, with a pause before each attempt. Returns whether there is a connection. -/
def reconnect (s : Channel) : Bool × Channel :=
  let s := s.closeLink.transition .reconnecting
  let policy := s.manager.config.backoff
  match policy.run pause attempt s.manager.attempts s with
  | (true, _, s) => (true, s)
  | (false, made, s) =>
    let s := s.tell (.gaveUp policy.maxAttempts)
    let s := { s with manager := { s.manager with attempts := made } }
    (false, s.transition .error)

end Channel

end CommandChannel
