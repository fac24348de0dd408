/-!
# States of a connection

A connection is made on request or again after a loss; it ends by request or by a failure. Ending
it by request is always possible.
-/

namespace CommandChannel

/-- The state of a connection. -/
inductive LinkState where
  /-- At rest: at the beginning and after the connection was ended by request. -/
  | disconnected
  /-- A connection is being made on request. -/
  | connecting
  /-- Commands can be sent. -/
  | connected
  /-- A connection is being made again. -/
  | reconnecting
  /-- No connection could be made, or it failed. -/
  | error
deriving DecidableEq, Repr

namespace LinkState

/-- The name of a state. -/
def name : LinkState → String
  | disconnected => "disconnected"
  | connecting => "connecting"
  | connected => "connected"
  | reconnecting => "reconnecting"
  | error => "error"

/-- The name of a state with a capital letter. -/
def title : LinkState → String
  | disconnected => "Disconnected"
  | connecting => "Connecting"
  | connected => "Connected"
  | reconnecting => "Reconnecting"
  | error => "Error"

instance : ToString LinkState := ⟨name⟩

/-- The number of a state. -/
def code : LinkState → Nat
  | disconnected => 0
  | connecting => 1
  | connected => 2
  | reconnecting => 3
  | error => 4

/-- Commands can be sent. -/
def isConnected (state : LinkState) : Bool := state == connected

/-- A connection is being made. -/
def isConnecting (state : LinkState) : Bool := state == connecting || state == reconnecting

/-- The last attempt or the connection failed. -/
def isError (state : LinkState) : Bool := state == error

/-- The state `next` may follow. -/
def mayBecome (state next : LinkState) : Bool :=
  match state, next with
  | _, disconnected => true
  | disconnected, connecting | error, connecting => true
  | connecting, connected | connecting, error => true
  | connected, connected | connected, error => true
  | disconnected, reconnecting | error, reconnecting => true
  | reconnecting, connected | reconnecting, error => true
  | _, _ => false

end LinkState

end CommandChannel
