import CommandChannel.Channel.Execute

/-!
# Ending a connection

A connection can be ended at any time, whatever state it is in and whatever goes wrong on the way.
The heartbeat monitor is told to end and fenced off by a new epoch, and the peer is told as far as
it still listens.
-/

namespace CommandChannel

namespace Channel

/-- Tell the monitor to end. Its handle is given up. -/
def stopHeartbeat (s : Channel) : Option Heartbeat.Handle × Channel :=
  let manager := { s.manager with epoch := s.manager.epoch + 1, heartbeat := none }
  match s.manager.heartbeat with
  | none => (none, { s with manager })
  | some handle =>
    let world := (s.world.tell (.heartbeatStopping handle.epoch)).stopThread handle.thread
    (some handle, { manager, world })

/-- Tell the peer that the connection ends, if it still works. -/
def sendClose (s : Channel) : Channel :=
  match s.manager.link with
  | none => s
  | some link =>
    if s.manager.state.isConnected then
      match link.write (.command .close) s.world with
      | (result, link, world) =>
        let s : Channel := { manager := { s.manager with link := some link }, world }
        match result with
        | .ok _ => s
        | .error e => s.tell (.closeFailed e)
    else
      s

/-- End the connection on request, whatever goes wrong on the way. Returns the monitor that was
told to end. -/
def disconnect (s : Channel) : Option Heartbeat.Handle × Channel :=
  let before := s.manager.state
  match s.stopHeartbeat with
  | (handle, s) =>
    let s := s.sendClose.closeLink
    let s :=
      if before ≠ .disconnected ∨ handle.isSome then
        (s.count (Stats.recordDisconnect s.now)).tell (.disconnected s.manager.config.endpoint)
      else
        s
    (handle, s.transition .disconnected)

end Channel

end CommandChannel
