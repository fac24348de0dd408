import CommandChannel.Duration.Text
import CommandChannel.Error

/-!
# Notices

What a connection tells whoever watches it. A notice is a cause; its level, its wording and its
details are given by one function each.
-/

namespace CommandChannel

/-- How much a notice matters. -/
inductive Level where
  | debug | info | warn | error
deriving DecidableEq, Repr

/-- The name of a level. -/
def Level.name : Level → String
  | debug => "DEBUG"
  | info => "INFO"
  | warn => "WARN"
  | error => "ERROR"

/-- Something worth telling. -/
inductive Notice where
  | alreadyConnected
  | connectFailed (endpoint : String) (error : ChannelError)
  | connected (addr : SocketAddr)
  | heartbeatNotStarted (error : IoError)
  | reconnecting (attempt maxAttempts : Nat) (delay : Duration)
  | reconnectFailed (error : ChannelError)
  | gaveUp (maxAttempts : Nat)
  | commandTimedOut (command : String) (limit : Duration)
  | connectionLost (command : String) (error : ChannelError)
  | retrying (command : String)
  | transportFailed (command : String) (error : ChannelError)
  | lateReply (remaining : Nat)
  | heartbeatStopping (epoch : Nat)
  | closeFailed (error : ChannelError)
  | disconnected (endpoint : String)
  | heartbeatStarted (epoch : Nat) (interval : Duration)
  | heartbeatStopped (epoch : Nat)
  | heartbeatFailed (epoch : Nat) (idle : Duration)
  | heartbeatStale (epoch current : Nat)
  | heartbeatDetached (epoch : Nat) (wait : Duration)
deriving DecidableEq, Repr

namespace Notice

/-- The level of a notice. -/
def level : Notice → Level
  | connectFailed .. | gaveUp .. | transportFailed .. => .error
  | connected .. | disconnected .. => .info
  | heartbeatNotStarted .. | reconnecting .. | reconnectFailed .. | commandTimedOut ..
  | connectionLost .. | heartbeatFailed .. | heartbeatDetached .. => .warn
  | alreadyConnected | retrying .. | lateReply .. | heartbeatStopping .. | closeFailed ..
  | heartbeatStarted .. | heartbeatStopped .. | heartbeatStale .. => .debug

/-- The wording of a notice. -/
def message : Notice → String
  | alreadyConnected => "already connected"
  | connectFailed .. => "failed to connect"
  | connected .. => "connected"
  | heartbeatNotStarted .. => "failed to start heartbeat"
  | reconnecting .. => "reconnecting"
  | reconnectFailed .. => "reconnect attempt failed"
  | gaveUp .. => "giving up after exhausting reconnect attempts"
  | commandTimedOut .. => "command timed out"
  | connectionLost .. => "connection lost"
  | retrying .. => "retrying after reconnect"
  | transportFailed .. => "transport error"
  | lateReply .. => "discarding late reply"
  | heartbeatStopping .. => "stopping heartbeat"
  | closeFailed .. => "close notification failed"
  | disconnected .. => "disconnected"
  | heartbeatStarted .. => "heartbeat started"
  | heartbeatStopped .. => "heartbeat stopped"
  | heartbeatFailed .. => "heartbeat failed, connection may be stale"
  | heartbeatStale .. => "stale heartbeat skipped"
  | heartbeatDetached .. => "heartbeat did not stop in time, detaching"

/-- The details of a notice, by name. -/
def details : Notice → List (String × String)
  | alreadyConnected => []
  | connectFailed endpoint error => [("endpoint", endpoint), ("error", error.message)]
  | connected addr => [("addr", toString addr)]
  | heartbeatNotStarted error => [("error", error.text)]
  | reconnecting attempt maxAttempts delay =>
    [("attempt", toString attempt), ("max_attempts", toString maxAttempts),
      ("delay", delay.unitText)]
  | reconnectFailed error => [("error", error.message)]
  | gaveUp maxAttempts => [("max_attempts", toString maxAttempts)]
  | commandTimedOut command limit => [("command", command), ("timeout", limit.unitText)]
  | connectionLost command error => [("command", command), ("error", error.message)]
  | retrying command => [("command", command)]
  | transportFailed command error => [("command", command), ("error", error.message)]
  | lateReply remaining => [("remaining", toString remaining)]
  | heartbeatStopping epoch => [("epoch", toString epoch)]
  | closeFailed error => [("error", error.message)]
  | disconnected endpoint => [("endpoint", endpoint)]
  | heartbeatStarted epoch interval =>
    [("epoch", toString epoch), ("interval", interval.unitText)]
  | heartbeatStopped epoch => [("epoch", toString epoch)]
  | heartbeatFailed epoch idle => [("epoch", toString epoch), ("idle", idle.unitText)]
  | heartbeatStale epoch current =>
    [("epoch", toString epoch), ("current", toString current)]
  | heartbeatDetached epoch wait => [("epoch", toString epoch), ("wait", wait.unitText)]

end Notice

end CommandChannel
