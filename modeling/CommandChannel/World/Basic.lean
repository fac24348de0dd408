import CommandChannel.Config
import CommandChannel.Heartbeat
import CommandChannel.Stream.Inbound
import CommandChannel.Stream.Outbound
import CommandChannel.World.Event

/-!
# The world around a connection

The world holds what a connection cannot know beforehand: the time, the names of hosts, how peers
behave and which threads start. It also keeps the history of all that happened, the latest event
first.
-/

namespace CommandChannel

/-- Calls on a socket that fail, and how. -/
structure SocketFaults where
  setReadTimeout : Option IoError := none
  setWriteTimeout : Option IoError := none
  setNodelay : Option IoError := none
  peerAddr : Option IoError := none
  duplicate : Option IoError := none
  localAddr : Option IoError := none
  shutdown : Option IoError := none

/-- How the peer of a connection behaves. -/
structure PeerScript where
  reads : List ReadEvent := []
  finish : Finish := .eof
  writes : List WriteEvent := []
  flushes : List FlushEvent := []
  faults : SocketFaults := {}

/-- What becomes of an attempt to connect. -/
inductive DialOutcome where
  /-- After a while the attempt fails. -/
  | refused (delay : Duration) (error : IoError)
  /-- After a while there is a connection to a peer that behaves as told. -/
  | accepted (delay : Duration) (peer : PeerScript)

/-- The world. -/
structure World where
  now : Duration := .zero
  names : NameTable := []
  /-- What is known at the next lookups of a peer. At further ones it is `names`. -/
  lookups : List NameTable := []
  /-- What becomes of the next attempts to connect. Further ones are refused. -/
  dials : List DialOutcome := []
  /-- Whether the next threads start. Further ones do. -/
  spawns : List (Option IoError) := []
  /-- The number of connections made so far. -/
  made : Nat := 0
  /-- The heartbeat monitors started so far. -/
  threads : List Heartbeat.Thread := []
  /-- What happened, the latest event first. -/
  history : List Entry := []

namespace World

/-- Something happens. -/
def record (event : Event) (w : World) : World :=
  { w with history := ⟨w.now, event⟩ :: w.history }

/-- Something is told to watchers. -/
def tell (notice : Notice) (w : World) : World := w.record (.notice notice)

/-- What is known at the next lookup. -/
def known (w : World) : NameTable := w.lookups.headD w.names

/-- A host is looked up, so that the lookup after this one may find something else. -/
def lookUp (host : String) (w : World) : World :=
  { w.record (.lookup host) with lookups := w.lookups.tail }

/-- Time passes. -/
def wait (span : Duration) (w : World) : World := { w with now := w.now + span }

/-- Time is spent waiting. -/
def sleep (span : Duration) (w : World) : World := (w.wait span).record (.sleep span)

/-- A thread starts if it can. Returns its number. -/
def spawn (epoch : Nat) (interval : Duration) (w : World) : Except IoError Nat × World :=
  match w.spawns with
  | some error :: rest => (.error error, { w with spawns := rest })
  | spawns =>
    let number := w.threads.length
    let thread := ⟨epoch, interval, .asleep (w.now + interval), false⟩
    let w := { w with spawns := spawns.drop 1, threads := w.threads ++ [thread] }
    (.ok number, (w.record (.spawn epoch)).tell (.heartbeatStarted epoch interval))

/-- A thread is told to end. -/
def stopThread (number : Nat) (w : World) : World :=
  { w with threads := w.threads.modify number fun t => { t with stopped := true } }

/-- A thread goes on to another phase. -/
def setPhase (number : Nat) (phase : Heartbeat.Phase) (w : World) : World :=
  { w with threads := w.threads.modify number fun t => { t with phase } }

end World

end CommandChannel
