import CommandChannel.Net.Address

/-!
# Errors of the channel

What can go wrong below the channel is an `IoError`, what can go wrong in it a `ChannelError`. Each
error is a cause; its wording is given by one function.
-/

namespace CommandChannel

/-- Kinds of failures of sockets, names and threads. -/
inductive IoKind where
  | notFound | permissionDenied | connectionRefused | connectionReset | hostUnreachable
  | networkUnreachable | connectionAborted | notConnected | addrInUse | addrNotAvailable
  | networkDown | brokenPipe | alreadyExists | wouldBlock | invalidInput | invalidData | timedOut
  | writeZero | resourceBusy | interrupted | unsupported | unexpectedEof | outOfMemory | other
deriving DecidableEq, Repr

namespace IoKind

/-- The wording of a failure of which only the kind is known. -/
def description : IoKind → String
  | notFound => "entity not found"
  | permissionDenied => "permission denied"
  | connectionRefused => "connection refused"
  | connectionReset => "connection reset"
  | hostUnreachable => "host unreachable"
  | networkUnreachable => "network unreachable"
  | connectionAborted => "connection aborted"
  | notConnected => "not connected"
  | addrInUse => "address in use"
  | addrNotAvailable => "address not available"
  | networkDown => "network down"
  | brokenPipe => "broken pipe"
  | alreadyExists => "entity already exists"
  | wouldBlock => "operation would block"
  | invalidInput => "invalid input parameter"
  | invalidData => "invalid data"
  | timedOut => "timed out"
  | writeZero => "write zero"
  | resourceBusy => "resource busy"
  | interrupted => "operation interrupted"
  | unsupported => "unsupported"
  | unexpectedEof => "unexpected end of file"
  | outOfMemory => "out of memory"
  | other => "other error"

/-- The two kinds by which a socket reports that its time is up. -/
def isTimeout : IoKind → Bool
  | timedOut | wouldBlock => true
  | _ => false

end IoKind

/-- A failure below the channel: its kind and its wording. -/
structure IoError where
  kind : IoKind
  text : String
deriving DecidableEq, Repr

/-- The failure of which only the kind is known. -/
def IoKind.error (kind : IoKind) : IoError := ⟨kind, kind.description⟩

instance : ToString IoError := ⟨IoError.text⟩

/-- Errors of the channel. -/
inductive ChannelError where
  /-- A failure of a socket or of a name lookup. -/
  | io (error : IoError)
  /-- A payload has no JSON text. -/
  | unencodable (reason : String)
  /-- Bytes that are not the frame that was expected. -/
  | malformed (reason : String)
  /-- A frame whose length is above the limit. -/
  | oversized (size max : Nat)
  /-- The peer closed the connection, or it broke while a frame was read. -/
  | lost (reason : String)
  /-- The time was up before any byte of the frame passed. -/
  | timedOut
  /-- The time was up when part of the frame had passed. -/
  | desynchronized (transferred : Nat)
  /-- There is no connection. -/
  | notConnected
  /-- No connection could be made; the last address that was tried. -/
  | connectFailed (addr : SocketAddr) (error : IoError)
deriving DecidableEq, Repr

namespace ChannelError

/-- The wording of an error. -/
def message : ChannelError → String
  | io error => "I/O error: " ++ error.text
  | unencodable reason => "Failed to encode payload: " ++ reason
  | malformed reason => "Malformed message: " ++ reason
  | oversized size max =>
    "Payload too large: " ++ toString size ++ " bytes exceeds maximum of " ++ toString max ++
      " bytes"
  | lost reason => "Connection lost: " ++ reason
  | timedOut => "Operation timed out"
  | desynchronized transferred =>
    "Stream desynchronized after " ++ toString transferred ++ " bytes of a partial frame"
  | notConnected => "Not connected"
  | connectFailed addr error => "Failed to connect to " ++ toString addr ++ ": " ++ error.text

instance : ToString ChannelError := ⟨message⟩

/-- The wording of the failure that an error passes on, if it passes one on. -/
def cause? : ChannelError → Option String
  | io error => some error.text
  | unencodable reason => some reason
  | connectFailed _ error => some error.text
  | _ => none

/-- The time was up and the connection is still in step. -/
def isTimeout : ChannelError → Bool
  | timedOut => true
  | _ => false

/-- The peer can no longer be trusted to be in step: only a new connection helps. -/
def isLoss : ChannelError → Bool
  | lost _ | malformed _ | oversized _ _ => true
  | _ => false

/-- A later attempt may succeed. -/
def isRecoverable : ChannelError → Bool
  | unencodable _ => false
  | _ => true

end ChannelError

end CommandChannel
