import CommandChannel.Channel.Connect

/-!
# Commands

A command is sent over the present connection, or over a new one if there is none, and its outcome
is that of its reply. A command whose connection is lost is sent once more over a new one; one that
is not answered in time is given up, and the connection is kept.

Replies come in the order of the commands. A command that is given up leaves a reply behind, so the
replies that are owed are counted and the late ones are passed over.
-/

namespace CommandChannel

namespace Channel

/-- The failure of a command while there is no connection. -/
def notConnectedText : String := "not connected"

/-- The failure of a command whose connection was lost for good. -/
def lostText : String := "Connection lost and reconnect failed"

/-- Read a reply from the connection. -/
def readReply (s : Channel) : Except ChannelError Response × Channel :=
  match s.manager.link with
  | none => (.error .notConnected, s)
  | some link =>
    match link.read Response.ofBytes s.world with
    | (.error e, link, world) =>
      (.error e, { manager := { s.manager with link := some link }, world })
    | (.ok (reply, size), link, world) =>
      let s : Channel := { manager := { s.manager with link := some link }, world }
      (.ok reply, (s.record (.received link.number reply size)).count (Stats.recordReceive size))

/-- Wait for the reply to the last command, after so many late ones. -/
def awaitReply : Nat → Channel → Except ChannelError Response × Channel
  | late, s =>
    match s.readReply with
    | (.error e, s) => (.error e, s)
    | (.ok reply, s) =>
      let s := { s with manager := { s.manager with owedReplies := late } }
      match late with
      | 0 => (.ok reply, s.touch.record .answered)
      | late + 1 => awaitReply late (s.tell (.lateReply (late + 1)))

/-- Write the frame of a command to the connection. -/
def sendFrame (frame : List UInt8) (s : Channel) : Except ChannelError Unit × Channel :=
  match s.manager.link with
  | none => (.error .notConnected, s)
  | some link =>
    match link.writeEncoded frame s.world with
    | (.error e, link, world) =>
      (.error e, { manager := { s.manager with link := some link }, world })
    | (.ok (), link, world) =>
      let manager := { s.manager with
        link := some link
        owedReplies := s.manager.owedReplies + 1 }
      let s : Channel := { manager, world }
      (.ok (), (s.record (.sent link.number frame)).count (Stats.recordSend frame.length))

/-- Send a command and wait for its reply. -/
def roundTrip (frame : List UInt8) (s : Channel) : Except ChannelError Response × Channel :=
  match s.sendFrame frame with
  | (.error e, s) => (.error e, s)
  | (.ok (), s) => awaitReply (s.manager.owedReplies - 1) s

/-- The connection that a command needs: the present one, or a new one. -/
def ensureLink (s : Channel) : Bool × Channel :=
  if s.manager.state.isConnected then (true, s) else s.reconnect

/-- The failure of a command that is not answered in time. -/
def timedOutText (name : String) (limit : Duration) : String :=
  "Command '" ++ name ++ "' timed out after " ++ limit.secondsText ++ "s"

/-- Send the frame of a command, and once more over a new connection after each loss as long as
`resends` allows. -/
def exchange (name : String) (frame : List UInt8) : Nat → Channel → Outcome × Channel
  | resends, s =>
    match s.ensureLink with
    | (false, s) => (.fail notConnectedText true, s)
    | (true, s) =>
      match s.roundTrip frame with
      | (.ok reply, s) => (reply.toOutcome, s)
      | (.error e, s) =>
        if e.isTimeout then
          let limit := s.manager.config.ioTimeout
          let s := s.count (Stats.recordTimeout s.now)
          (.fail (timedOutText name limit) true, s.tell (.commandTimedOut name limit))
        else if e.isLoss then
          let s := (s.tell (.connectionLost name e)).fail
          match resends with
          | 0 => (.fail e.message true, s)
          | resends + 1 =>
            match s.reconnect with
            | (false, s) => (.fail lostText true, s)
            | (true, s) => exchange name frame resends (s.tell (.retrying name))
        else
          (.fail e.message e.isRecoverable, (s.tell (.transportFailed name e)).fail)

/-- A command is sent once more at most. -/
def maxResends : Nat := 1

/-- Send a command and wait for its outcome. -/
def execute (command : Command) (s : Channel) : Outcome × Channel :=
  match Frame.encode (.command command) with
  | .error e => (.fail e.message false, s)
  | .ok frame => s.exchange command.name frame maxResends

/-- The outcome of a sign of life. -/
def isAlive (o : Outcome) : Bool :=
  o.success && (o.data.find? "pong").any (· == .bool true)

/-- Ask the peer for a sign of life. Returns whether it gave one. -/
def probe (s : Channel) : Bool × Channel :=
  match s.execute .ping with
  | (outcome, s) => (isAlive outcome, s)

/-- Ask for a sign of life on behalf of the monitor of an epoch. An earlier epoch has no say. -/
def heartbeat (epoch : Nat) (s : Channel) : Bool × Channel :=
  if s.manager.epoch = epoch then s.probe
  else (true, s.tell (.heartbeatStale epoch s.manager.epoch))

end Channel

end CommandChannel
