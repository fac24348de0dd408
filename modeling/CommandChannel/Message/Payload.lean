import CommandChannel.Error
import CommandChannel.Message.Command
import CommandChannel.Message.Response

/-!
# Payloads

What can be sent: any JSON value, a command, a reply, an outcome, or a table. A table is the only
payload that may have no JSON text, since its keys need not be texts.
-/

namespace CommandChannel

/-- Something to send. -/
inductive Payload where
  | value (v : Json)
  | command (c : Command)
  | response (r : Response)
  | outcome (o : Outcome)
  | table (entries : List (Json × Json))

namespace Payload

/-- The member that an entry of a table makes, if its key is a text. -/
def member? : Json × Json → Option (String × Json)
  | (.str key, v) => some (key, v)
  | _ => none

/-- The text of a payload, without blanks. -/
def text : Payload → Except ChannelError (List Char)
  | value v => .ok (v.format .compact 0)
  | command c => .ok ((Json.obj c.members).format .compact 0)
  | response r => .ok ((Json.obj r.members).format .compact 0)
  | outcome o => .ok (o.toJson.format .compact 0)
  | table entries =>
    match entries.mapM member? with
    | some members => .ok ((Json.obj members).format .compact 0)
    | none => .error (.unencodable "key must be a string")

end Payload

end CommandChannel
