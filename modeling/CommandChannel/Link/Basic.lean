import CommandChannel.World.Basic

/-!
# Connections

A connection carries bytes both ways. Reads are buffered, writes are not, so that a writer knows
whether any byte has left.
-/

namespace CommandChannel

/-- A connection. -/
structure Link where
  /-- Connections are numbered in the order in which they are made. -/
  number : Nat
  /-- What is still to be read. -/
  inbound : Inbound
  /-- What was written, and what becomes of further writes. -/
  outbound : Outbound
  /-- Which calls on the socket fail. -/
  faults : SocketFaults
  /-- The address that was dialed. -/
  peerAddr : SocketAddr
  /-- The address of the own end. -/
  localAddr : SocketAddr

namespace Link

/-- The size of the buffer for reads. -/
def bufferSize : Nat := 8192

/-- The port of the own end of the first connection that is made. -/
def firstLocalPort : Nat := 40000

/-- The connection to a peer that behaves as described. -/
def ofScript (number : Nat) (script : PeerScript) (peerAddr localAddr : SocketAddr) : Link where
  number := number
  inbound := { events := script.reads, finish := script.finish, capacity := bufferSize }
  outbound := { events := script.writes, flushes := script.flushes }
  faults := script.faults
  peerAddr := peerAddr
  localAddr := localAddr

/-- The own end of a connection to an address. -/
def ownEnd (number : Nat) : SocketAddr → SocketAddr
  | .v4 .. => .v4 .loopback (UInt16.ofNat (firstLocalPort + number))
  | .v6 .. => .v6 .loopback (UInt16.ofNat (firstLocalPort + number)) 0 0

/-- The address of the own end, as far as it can be told. -/
def localAddr? (link : Link) : Except IoError SocketAddr :=
  match link.faults.localAddr with
  | some error => .error error
  | none => .ok link.localAddr

/-- The connection with a limit on reads. -/
def setReadTimeout (limit : Duration) (link : Link) : Except IoError Link :=
  match link.faults.setReadTimeout with
  | some error => .error error
  | none => .ok { link with inbound := { link.inbound with timeout := some limit } }

/-- The connection with a limit on writes. -/
def setWriteTimeout (limit : Duration) (link : Link) : Except IoError Link :=
  match link.faults.setWriteTimeout with
  | some error => .error error
  | none => .ok { link with outbound := { link.outbound with timeout := some limit } }

/-- The connection without delays that gather small frames. -/
def setNodelay (link : Link) : Except IoError Link :=
  match link.faults.setNodelay with
  | some error => .error error
  | none => .ok link

/-- The connection made ready for frames: its peer is known and it can be read apart from being
written. -/
def prepare (link : Link) : Except IoError Link :=
  match link.faults.peerAddr, link.faults.duplicate with
  | some error, _ => .error error
  | none, some error => .error error
  | none, none => .ok link

/-- The connection with limits on reads and writes, made ready for frames. -/
def setUp (limit : Duration) (link : Link) : Except IoError Link := do
  (← (← (← link.setReadTimeout limit).setWriteTimeout limit).setNodelay).prepare

end Link

end CommandChannel
