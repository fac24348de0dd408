import CommandChannel.Session.Basic
import CommandChannel.Text.Quoted

/-!
# What is seen of a session

A session goes on in steps. What is seen of it after each step is what the step returned, the
manager, the moment, and what happened meanwhile.
-/

namespace CommandChannel

namespace Session

/-- A step of a session. -/
inductive Step where
  /-- Nothing but a look. -/
  | look
  | connect
  | disconnect
  | execute (command : Command)
  | probe
  | describe
  | endpoint
  /-- Time passes. -/
  | advance (span : Duration)
  /-- Time passes, and from now on monitors are held. -/
  | hold (span : Duration)
  | release
  /-- The manager is given up. -/
  | drop

/-- What a step returns. -/
inductive Answer where
  | nothing
  | flag (value : Bool)
  | outcome (outcome : Outcome)
  | text (text : String)

/-- A manager as a short text. -/
def description (m : Manager) : String :=
  "PersistentConnection \x7b endpoint: " ++ quotedText m.config.endpoint ++ ", state: " ++
    m.published.title ++ " \x7d"

/-- The session after a step, and what the step returns. -/
def step (s : Session) : Step → Answer × Session
  | .look => (.nothing, s)
  | .connect =>
    match s.channel.connect with
    | (up, channel) => (.flag up, { s with channel })
  | .disconnect => (.nothing, s.disconnect)
  | .execute command =>
    match s.channel.execute command with
    | (outcome, channel) => (.outcome outcome, { s with channel })
  | .probe =>
    match s.channel.probe with
    | (alive, channel) => (.flag alive, { s with channel })
  | .describe => (.text (description s.channel.manager), s)
  | .endpoint => (.text s.channel.manager.config.endpoint, s)
  | .advance span => (.nothing, s.advance span)
  | .hold span => (.nothing, { s with holding := true }.advance span)
  | .release => (.nothing, s.release)
  | .drop => (.nothing, s.disconnect)

/-- What is seen of a session after a step. -/
structure Row where
  answer : Answer
  /-- The manager in its world, unless it was given up. -/
  channel : Option Channel
  now : Duration
  /-- What happened during the step. -/
  trace : List Event

/-- What was added to a history since an earlier moment. -/
def newEntries (before after : World) : List Entry :=
  after.history.take (after.history.length - before.history.length)

/-- The step is the last one. -/
def Step.isLast : Step → Bool
  | drop => true
  | _ => false

/-- What is seen after each of some steps, with notices if `notices`. Nothing follows after the
manager is given up. -/
def run (notices : Bool) (s : Session) : List Step → List Row
  | [] => []
  | step :: steps =>
    match s.step step with
    | (answer, t) =>
      let row : Row := {
        answer
        channel := if step.isLast then none else some t.channel
        now := t.channel.now
        trace := Event.shown notices (newEntries s.channel.world t.channel.world) }
      if step.isLast then [row] else row :: t.run notices steps

end Session

end CommandChannel
