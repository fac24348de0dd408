import CommandChannel.Channel.Disconnect

/-!
# Runs

What can be asked of a manager are a few operations. A run is a series of them in any order, with
time passing in between.
-/

namespace CommandChannel

namespace Channel

/-- What a manager can be asked to do. -/
inductive Operation where
  /-- A connection is asked for. -/
  | connect
  /-- The end of the connection is asked for. -/
  | disconnect
  /-- A command is to be sent, and its reply awaited. -/
  | execute (command : Command)
  /-- A sign of life is asked for. -/
  | probe
  /-- A monitor of an epoch asks for a sign of life. -/
  | heartbeat (epoch : Nat)
  /-- Nothing is asked of the manager, and time passes. -/
  | wait (span : Duration)

/-- The channel after an operation. -/
def perform (s : Channel) : Operation → Channel
  | .connect => s.connect.2
  | .disconnect => s.disconnect.2
  | .execute command => (s.execute command).2
  | .probe => s.probe.2
  | .heartbeat epoch => (s.heartbeat epoch).2
  | .wait span => { s with world := s.world.wait span }

/-- The channel after operations, one after the other. -/
def run (s : Channel) (operations : List Operation) : Channel := operations.foldl perform s

end Channel

end CommandChannel
