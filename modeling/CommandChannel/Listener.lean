import CommandChannel.Link.Basic

/-!
# Listeners

A listener waits at an address for peers to connect. Connections that it accepts have no limits on
reads and writes.
-/

namespace CommandChannel

/-- What a listener meets next. -/
inductive Arrival where
  | failed (error : IoError)
  | arrived (peerAddr : SocketAddr) (peer : PeerScript)

/-- A listener. -/
structure Listener where
  localAddr : SocketAddr
  /-- What it meets next; further on, nobody comes. -/
  arrivals : List Arrival

namespace Listener

/-- The port that stands in for port zero. -/
def freePort : UInt16 := 50000

/-- What may go wrong while a listener is made. -/
structure Faults where
  bind : Option IoError := none
  localAddr : Option IoError := none

/-- A listener at an address; a port that is left open is chosen. -/
def bind (addr : SocketAddr) (arrivals : List Arrival) (faults : Faults) :
    Except ChannelError Listener :=
  match faults.bind, faults.localAddr with
  | some error, _ => .error (.io error)
  | none, some error => .error (.io error)
  | none, none =>
    let localAddr := if addr.port = 0 then addr.withPort freePort else addr
    .ok { localAddr, arrivals }

/-- The next connection. -/
def accept (listener : Listener) (w : World) : Except ChannelError Link × Listener × World :=
  match listener.arrivals with
  | [] => (.error (.io IoKind.wouldBlock.error), listener, w)
  | .failed error :: rest => (.error (.io error), { listener with arrivals := rest }, w)
  | .arrived peerAddr script :: rest =>
    let link := Link.ofScript w.made script peerAddr listener.localAddr
    let w := { w with made := w.made + 1 }.record (.opened link.number)
    match link.prepare with
    | .ok link => (.ok link, { listener with arrivals := rest }, w)
    | .error error =>
      (.error (.io error), { listener with arrivals := rest }, w.record (.closed link.number))

/-- The next `count` connections. -/
def incoming (listener : Listener) (w : World) :
    Nat → List (Except ChannelError Link) × Listener × World
  | 0 => ([], listener, w)
  | count + 1 =>
    match listener.accept w with
    | (result, listener, w) =>
      match listener.incoming w count with
      | (results, listener, w) => (result :: results, listener, w)

end Listener

end CommandChannel
