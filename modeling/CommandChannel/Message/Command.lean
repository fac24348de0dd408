import CommandChannel.Json.Text
import CommandChannel.Json.Basic

/-!
# Commands

A command names what the peer is to do and may carry parameters. Two names are reserved: one asks
the peer for a sign of life, one tells it that the connection is about to be closed.
-/

namespace CommandChannel

/-- A request to the peer. -/
structure Command where
  /-- What the peer is to do. -/
  name : String
  /-- Parameters; an empty object is not the same as none, though neither is sent. -/
  params : Option Members

namespace Command

instance : BEq Command where
  beq a b :=
    a.name == b.name &&
      match a.params, b.params with
      | none, none => true
      | some p, some q => Json.obj p == Json.obj q
      | _, _ => false

/-- The command that asks for a sign of life. -/
def ping : Command := ⟨"ping", none⟩

/-- The command that announces the end of the connection. -/
def close : Command := ⟨"close", none⟩

/-- The parameters that are sent: an empty object is left out. -/
def sentParams (c : Command) : Option Members :=
  match c.params with
  | some [] => none
  | params => params

/-- The members of the object that is sent, in the order in which they are written. -/
def members (c : Command) : Members :=
  ("type", .str c.name) ::
    match c.sentParams with
    | some params => [("params", .obj params)]
    | none => []

end Command

end CommandChannel
