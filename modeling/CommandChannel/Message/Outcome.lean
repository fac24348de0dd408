import CommandChannel.Json.Text

/-!
# Outcomes of commands

Every command ends in an outcome, whatever went wrong on the way. For the caller it is rendered as
one object, in which the data of a success stand beside the flag that tells success from failure.
-/

namespace CommandChannel

/-- The end of a command. -/
structure Outcome where
  success : Bool
  /-- What the peer returned; of interest after a success. -/
  data : Members
  /-- What went wrong; of interest after a failure. -/
  error : Option String
  /-- A later attempt may succeed; of interest after a failure. -/
  recoverable : Bool

namespace Outcome

/-- A success with data. -/
def succeed (data : Members) : Outcome := ⟨true, data, none, true⟩

/-- A failure. -/
def fail (error : String) (recoverable : Bool) : Outcome := ⟨false, [], some error, recoverable⟩

/-- The members of the rendered object. The flag takes precedence over data of the same key. -/
def members (o : Outcome) : Members :=
  if o.success then
    Members.insert "success" (.bool true) (o.data.filter fun entry => entry.1 != "success")
  else
    [("error", match o.error with | some text => .str text | none => .null),
      ("recoverable", .bool o.recoverable), ("success", .bool false)]

/-- The object that a caller sees. -/
def toJson (o : Outcome) : Json := .obj o.members

end Outcome

end CommandChannel
