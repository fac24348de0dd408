import CommandChannel.Message.Response
import CommandChannel.State
import CommandChannel.World.Notice

/-!
# Events

Everything that happens is an event. The history of a session keeps all of them; what is shown of
it leaves out those that only tell where its bytes came from, and joins neighbouring events that
are one to a watcher.
-/

namespace CommandChannel

/-- Something that happens. Connections are known by their numbers. -/
inductive Event where
  /-- A connection to an address is tried. -/
  | dial (addr : SocketAddr) (limit : Duration)
  /-- Time is spent waiting. -/
  | sleep (span : Duration)
  /-- Bytes were taken by a connection. -/
  | write (conn : Nat) (bytes : List UInt8)
  /-- A connection is shut down. -/
  | shutdown (conn : Nat)
  /-- A heartbeat monitor starts. -/
  | spawn (epoch : Nat)
  /-- The state changes. -/
  | change (before after : LinkState)
  /-- Something is told to watchers. -/
  | notice (notice : Notice)
  /-- The name of a host is looked up. -/
  | lookup (host : String)
  /-- A connection is made. -/
  | opened (conn : Nat)
  /-- A connection is given up. -/
  | closed (conn : Nat)
  /-- A frame is about to be written. -/
  | offered (conn : Nat) (frame : List UInt8)
  /-- A frame of a command was written as a whole. -/
  | sent (conn : Nat) (frame : List UInt8)
  /-- A reply was read; its frame has so many bytes. -/
  | received (conn : Nat) (reply : Response) (size : Nat)
  /-- The reply just read answers the last command. -/
  | answered

/-- An event and the moment at which it happened. -/
structure Entry where
  time : Duration
  event : Event

namespace Event

/-- The name of the thread of a heartbeat monitor. -/
def threadName (epoch : Nat) : String := "cmdlink-heartbeat-" ++ toString epoch

/-- The event is shown, with notices if `notices`. -/
def isShown (notices : Bool) : Event → Bool
  | dial .. | sleep .. | write .. | shutdown .. | spawn .. | change .. => true
  | notice _ => notices
  | lookup .. | opened .. | closed .. | offered .. | sent .. | received .. | answered => false

/-- Two neighbouring events as one: bytes taken by one connection, and time spent waiting. -/
def join? : Event → Event → Option Event
  | sleep a, sleep b => some (sleep (a + b))
  | write c as, write d bs => if c = d then some (write c (as ++ bs)) else none
  | _, _ => none

/-- An event before others, joined with the first of them if they are one. -/
def cons (e : Event) : List Event → List Event
  | [] => [e]
  | f :: rest =>
    match e.join? f with
    | some joined => joined :: rest
    | none => e :: f :: rest

/-- What is shown of a history that lists the latest event first, in the order of time. -/
def shown (notices : Bool) (history : List Entry) : List Event :=
  ((history.reverse.map Entry.event).filter (isShown notices)).foldr cons []

end Event

end CommandChannel
