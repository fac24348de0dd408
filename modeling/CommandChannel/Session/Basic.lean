import CommandChannel.Channel.Run

/-!
# Sessions

A session is a manager at work together with its heartbeat monitors. Monitors run only while time
is let pass, while their end is awaited, and when they are let go after they were held: each to the
point where it sleeps again. Of several monitors that are due the earliest one runs first, and of
those due at one moment the one that was started first.
-/

namespace CommandChannel

/-- A manager at work. -/
structure Session where
  channel : Channel
  /-- Monitors stop just before they ask for a sign of life. -/
  holding : Bool := false

namespace Session

/-- A session at the beginning of a world. -/
def start (config : Config) (world : World) : Session := ⟨.start config world, false⟩

/-- The world changes. -/
def mapWorld (f : World → World) (s : Session) : Session :=
  { s with channel := { s.channel with world := f s.channel.world } }

/-- A monitor ends. -/
def finish (number epoch : Nat) (s : Session) : Session :=
  s.mapWorld fun w => (w.setPhase number .finished).tell (.heartbeatStopped epoch)

/-- A monitor sleeps for another interval, unless it was told to end. -/
def rest (number : Nat) (thread : Heartbeat.Thread) (s : Session) : Session :=
  if thread.stopped then s.finish number thread.epoch
  else s.mapWorld fun w => w.setPhase number (.asleep (w.now + thread.interval))

/-- A monitor asks for a sign of life, and tells if there is none. -/
def probe (number : Nat) (thread : Heartbeat.Thread) (idle : Duration) (s : Session) : Session :=
  match s.channel.heartbeat thread.epoch with
  | (alive, channel) =>
    let channel := if alive then channel else channel.tell (.heartbeatFailed thread.epoch idle)
    { s with channel }.rest number thread

/-- A monitor that sleeps is woken. -/
def wake (number : Nat) (s : Session) : Session :=
  match s.channel.world.threads[number]? with
  | none => s
  | some thread =>
    let wake := if thread.stopped then .stop else .clock
    match Heartbeat.action thread.interval wake (some s.channel.idle) with
    | .finish => s.finish number thread.epoch
    | .rest => s.rest number thread
    | .probe idle =>
      if s.holding then s.mapWorld (·.setPhase number (.held idle))
      else s.probe number thread idle

/-- The earlier of two due monitors; the first one if both are due at one moment. -/
def earlier : Option (Nat × Duration) → Option (Nat × Duration) → Option (Nat × Duration)
  | none, due => due
  | due, none => due
  | some a, some b => if a.2 ≤ b.2 then some a else some b

/-- The monitor that is due first, of those numbered from `number` on. -/
def firstDue (number : Nat) : List Heartbeat.Thread → Option (Nat × Duration)
  | [] => none
  | thread :: rest =>
    earlier (thread.deadline?.map fun deadline => (number, deadline)) (firstDue (number + 1) rest)

/-- Let the monitors run that are due up to a moment, one after the other. -/
def runDue (target : Duration) : Nat → Session → Session
  | 0, s => s
  | fuel + 1, s =>
    match firstDue 0 s.channel.world.threads with
    | none => s
    | some (number, deadline) =>
      if deadline ≤ target then
        runDue target fuel ((s.mapWorld fun w => { w with now := max w.now deadline }).wake number)
      else
        s

/-- How often the monitors can be due up to a moment: each wake-up of one puts it off by its
interval at least. -/
def wakeBound (target : Duration) (threads : List Heartbeat.Thread) : Nat :=
  threads.foldl (fun bound thread =>
    match thread.deadline? with
    | some deadline => bound + (target.nanos - deadline.nanos) / thread.interval.nanos + 1
    | none => bound) 0

/-- Time passes. -/
def advance (span : Duration) (s : Session) : Session :=
  let target := s.channel.now + span
  let s := s.runDue target (wakeBound target s.channel.world.threads)
  s.mapWorld fun w => { w with now := max w.now target }

/-- A monitor that was held goes on. -/
def releaseThread (s : Session) (number : Nat) : Session :=
  match s.channel.world.threads[number]? with
  | some thread =>
    match thread.phase with
    | .held idle => s.probe number thread idle
    | _ => s
  | none => s

/-- Monitors are no longer held, and those that were go on in order. -/
def release (s : Session) : Session :=
  (List.range s.channel.world.threads.length).foldl releaseThread { s with holding := false }

/-- The end of a monitor that was told to end is awaited. One that sleeps ends at once, one that is
held does not. -/
def join (handle : Heartbeat.Handle) (s : Session) : Session :=
  let s :=
    match s.channel.world.threads[handle.thread]?.bind Heartbeat.Thread.deadline? with
    | some _ => s.wake handle.thread
    | none => s
  let finish :=
    match s.channel.world.threads[handle.thread]? with
    | some thread => if thread.phase = .finished then some s.channel.now else none
    | none => some s.channel.now
  match Heartbeat.await finish Heartbeat.joinLimit s.channel.now with
  | (ended, steps, _) =>
    let s := s.mapWorld fun w => Nat.repeat (World.sleep Heartbeat.pollStep) steps w
    if ended then s
    else s.mapWorld fun w => w.tell (.heartbeatDetached handle.epoch Heartbeat.joinLimit)

/-- End the connection on request, and wait for its monitor to end. -/
def disconnect (s : Session) : Session :=
  match s.channel.disconnect with
  | (none, channel) => { s with channel }
  | (some handle, channel) => { s with channel }.join handle

end Session

end CommandChannel
