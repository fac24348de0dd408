import CommandChannel.Message.Outcome

/-!
# Replies of the peer

A reply may be any object. Four of its members matter; one of an unexpected type is kept as its
text where it is shown, and dropped otherwise. A reply with the status of a success becomes a
successful outcome, any other a failure.
-/

namespace CommandChannel

/-- A reply. -/
structure Response where
  /-- Whether the command succeeded, in the words of the peer. -/
  status : Option String
  /-- What a success brings. -/
  result : Option Json
  /-- What a failure is about. -/
  error : Option String
  /-- Whether it makes sense to try again. -/
  recoverable : Option Bool

namespace Response

/-- The status of a success. -/
def successStatus : String := "success"

/-- The error of a failed reply that gives none. -/
def unknownError : String := "Unknown error"

instance : BEq Response where
  beq a b :=
    a.status == b.status && a.error == b.error && a.recoverable == b.recoverable &&
      match a.result, b.result with
      | none, none => true
      | some v, some w => v == w
      | _, _ => false

/-- A successful reply. -/
def succeed (result : Json) : Response := ⟨some successStatus, some result, none, none⟩

/-- A reply that reports an error. -/
def fail (error : String) (recoverable : Bool) : Response :=
  ⟨some "error", none, some error, some recoverable⟩

/-- What is shown of a value where a text is expected. -/
def shownText : Json → Option String
  | .null => none
  | .str text => some text
  | v => some v.compactText

/-- The reply that an object makes. -/
def ofMembers (fields : Members) : Response where
  status := (fields.find? "status").bind shownText
  result := fields.find? "result"
  error := (fields.find? "error").bind shownText
  recoverable := (fields.find? "recoverable").bind Json.asBool?

/-- The members of the object that is sent, in the order in which they are written; those that are
absent are left out. -/
def members (r : Response) : Members :=
  (r.status.map fun text => ("status", Json.str text)).toList ++
    (r.result.map fun v => ("result", v)).toList ++
    (r.error.map fun text => ("error", Json.str text)).toList ++
    (r.recoverable.map fun b => ("recoverable", Json.bool b)).toList

/-- The reply has the status of a success. -/
def isSuccess (r : Response) : Bool := r.status == some successStatus

/-- The data of a successful reply: its result if that is an object, else an object that holds
it. -/
def data (r : Response) : Members :=
  match r.result with
  | some (.obj members) => members
  | none => []
  | some .null => []
  | some v => [("result", v)]

/-- The outcome of the command that a reply answers. -/
def toOutcome (r : Response) : Outcome :=
  if r.isSuccess then .succeed r.data
  else .fail (r.error.getD unknownError) (r.recoverable.getD true)

end Response

end CommandChannel
