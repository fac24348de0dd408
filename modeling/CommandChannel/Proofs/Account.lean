import CommandChannel.World.Basic

/-!
# What a history tells

A history lists what happened to all connections, the latest event first. Here it is read for one
connection at a time: whether the connection was made and given up, which frames were offered to
it and how much of each it took, and which replies were read from it. A tally keeps what concerns
all connections together.
-/

namespace CommandChannel

/-- An attempt to write a frame to a connection. -/
structure Attempt where
  frame : List UInt8
  /-- The bytes of the frame that the connection took. -/
  taken : List UInt8 := []
  /-- The frame of a command was taken as a whole and flushed, so that a reply to it is due. -/
  confirmed : Bool := false

namespace Attempt

/-- The connection took the whole frame. -/
def isWhole (attempt : Attempt) : Bool := attempt.taken == attempt.frame

/-- A frame is taken as a whole exactly if the bytes taken are the frame. -/
theorem isWhole_iff {attempt : Attempt} :
    attempt.isWhole = true ↔ attempt.taken = attempt.frame := beq_iff_eq

/-- The attempt left the stream at the end of a frame: nothing of the frame was taken, or all of
it was taken and flushed. The frame that announces the end of a connection is never confirmed. -/
def Clean (attempt : Attempt) : Prop :=
  (attempt.taken = [] ∧ attempt.confirmed = false) ∨
    (attempt.taken = attempt.frame ∧ attempt.confirmed = true)

end Attempt

/-- What a history tells of one connection. -/
structure Account where
  /-- The connection was made. -/
  opened : Bool := false
  /-- The connection was given up. -/
  closed : Bool := false
  /-- The attempts to write a frame to it, the latest first. -/
  attempts : List Attempt := []
  /-- The bytes that it took, in the order of time. -/
  bytes : List UInt8 := []
  /-- The replies that were read from it, the latest first. -/
  replies : List Response := []

namespace Account

/-- The connection is made. -/
def start (account : Account) : Account := { account with opened := true }

/-- The connection is given up. -/
def finish (account : Account) : Account := { account with closed := true }

/-- A frame is about to be written. -/
def offer (frame : List UInt8) (account : Account) : Account :=
  { account with attempts := { frame } :: account.attempts }

/-- The connection takes bytes of the frame that was offered last. -/
def take (bytes : List UInt8) (account : Account) : Account :=
  { account with
    attempts := account.attempts.modifyHead fun attempt =>
      { attempt with taken := attempt.taken ++ bytes }
    bytes := account.bytes ++ bytes }

/-- The frame that was offered last is sent. -/
def confirm (account : Account) : Account :=
  { account with
    attempts := account.attempts.modifyHead fun attempt => { attempt with confirmed := true } }

/-- A reply is read. -/
def receive (reply : Response) (account : Account) : Account :=
  { account with replies := reply :: account.replies }

/-- The account of a connection after an event. -/
def note (conn : Nat) (account : Account) : Event → Account
  | .opened c => if c = conn then account.start else account
  | .closed c => if c = conn then account.finish else account
  | .offered c frame => if c = conn then account.offer frame else account
  | .write c bytes => if c = conn then account.take bytes else account
  | .sent c _ => if c = conn then account.confirm else account
  | .received c reply _ => if c = conn then account.receive reply else account
  | _ => account

/-- The frames that the connection took as a whole, in the order of time. -/
def frames (account : Account) : List (List UInt8) :=
  (account.attempts.reverse.filter Attempt.isWhole).map Attempt.frame

/-- The replies that were read from the connection, in the order of time. -/
def received (account : Account) : List Response := account.replies.reverse

/-- The connection is in use: it was made and not given up yet. -/
def isOpen (account : Account) : Bool := account.opened && !account.closed

/-- Two accounts tell the same of what passed over a connection. -/
structure SameStream (account account' : Account) : Prop where
  /-- The attempts to write are the same. -/
  attempts_eq : account'.attempts = account.attempts
  /-- So are the bytes that were taken. -/
  bytes_eq : account'.bytes = account.bytes
  /-- So are the replies that were read. -/
  replies_eq : account'.replies = account.replies

/-- What passed over a connection is compared in steps, from an account to a later one. -/
theorem SameStream.trans {a b c : Account} (hab : a.SameStream b) (hbc : b.SameStream c) :
    a.SameStream c where
  attempts_eq := hbc.attempts_eq.trans hab.attempts_eq
  bytes_eq := hbc.bytes_eq.trans hab.bytes_eq
  replies_eq := hbc.replies_eq.trans hab.replies_eq

/-- Accounts that tell the same of what passed over a connection show the same whole frames. -/
theorem SameStream.frames_eq {a b : Account} (h : a.SameStream b) : b.frames = a.frames := by
  unfold frames
  rw [h.attempts_eq]

/-- Taking no bytes changes nothing, so a write that takes none need not be told from no write. -/
@[simp] theorem take_nil (account : Account) : account.take [] = account := by
  obtain ⟨opened, closed, attempts, bytes, replies⟩ := account
  cases attempts <;> simp [take]

end Account

/-- What a history tells of all connections together. -/
structure Tally where
  /-- How often the peer was looked up. Each attempt to open a connection begins with that. -/
  lookups : Nat := 0
  /-- The frames that were offered and the connections they were offered to, in the order of
  time. -/
  offers : List (Nat × List UInt8) := []
  /-- How often a command was answered by its own reply. -/
  answers : Nat := 0

namespace Tally

/-- The peer is looked up so many times. -/
def lookUp (count : Nat) (tally : Tally) : Tally :=
  { tally with lookups := tally.lookups + count }

/-- A frame is about to be written to a connection. -/
def offer (conn : Nat) (frame : List UInt8) (tally : Tally) : Tally :=
  { tally with offers := tally.offers ++ [(conn, frame)] }

/-- A command is answered. -/
def answer (tally : Tally) : Tally := { tally with answers := tally.answers + 1 }

/-- The tally after an event. -/
def note (tally : Tally) : Event → Tally
  | .lookup _ => tally.lookUp 1
  | .offered conn frame => tally.offer conn frame
  | .answered => tally.answer
  | _ => tally

/-- No lookup leaves the tally as it is, as after attempts that did not look the peer up. -/
@[simp] theorem lookUp_zero (tally : Tally) : tally.lookUp 0 = tally := rfl

/-- Lookups are counted one by one, apart from all else that a tally shows. -/
@[simp] theorem lookups_lookUp (tally : Tally) (count : Nat) :
    (tally.lookUp count).lookups = tally.lookups + count := rfl

/-- Lookups offer nothing to any connection: what was offered stays as it was, in its order. -/
@[simp] theorem offers_lookUp (tally : Tally) (count : Nat) :
    (tally.lookUp count).offers = tally.offers := rfl

/-- Lookups in two goes count like all of them in one. -/
@[simp] theorem lookUp_lookUp (tally : Tally) (m n : Nat) :
    (tally.lookUp m).lookUp n = tally.lookUp (m + n) := by
  simp [lookUp, Nat.add_assoc]

end Tally

/-- Something that is done towards a peer, or time spent before it is done: a name is looked up, a
connection is tried after a pause, a frame is offered or bytes of it are written. -/
def Event.isAction : Event → Bool
  | lookup _ | dial .. | sleep _ | offered .. | write .. => true
  | _ => false

namespace World

/-- The account of a connection. -/
def account (w : World) (conn : Nat) : Account :=
  w.history.foldr (fun entry account => account.note conn entry.event) {}

/-- The tally of all connections. -/
def tally (w : World) : Tally := w.history.foldr (fun entry tally => tally.note entry.event) {}

/-- What was done towards peers, the latest first. -/
def actions (w : World) : List Event := (w.history.map Entry.event).filter Event.isAction

/-- Two worlds between which nothing happened to any connection. -/
structure SameTraffic (w w' : World) : Prop where
  /-- No connection was made. -/
  made_eq : w'.made = w.made
  /-- None was given up, and nothing passed over any of them. -/
  account_eq : ∀ conn, w'.account conn = w.account conn
  /-- No frame was offered, and no host was looked up. -/
  tally_eq : w'.tally = w.tally

/-- Between a world and itself nothing happened. Steps that do nothing begin with this. -/
theorem SameTraffic.refl (w : World) : w.SameTraffic w := ⟨rfl, fun _ => rfl, rfl⟩

/-- A quiet time may be followed by another one, and both together are quiet. -/
theorem SameTraffic.trans {u v w : World} (huv : u.SameTraffic v) (hvw : v.SameTraffic w) :
    u.SameTraffic w where
  made_eq := hvw.made_eq.trans huv.made_eq
  account_eq c := (hvw.account_eq c).trans (huv.account_eq c)
  tally_eq := hvw.tally_eq.trans huv.tally_eq

/-- What leaves no entry in the history concerns no connection, as long as none is made by it. -/
theorem SameTraffic.of_history_eq {w w' : World} (hmade : w'.made = w.made)
    (hhistory : w'.history = w.history) : w.SameTraffic w' where
  made_eq := hmade
  account_eq c := by rw [account, hhistory, account]
  tally_eq := by rw [tally, hhistory, tally]

/-- Where nothing happened to any connection, nothing passed over any. The converse fails: a
connection may be given up without anything passing over it. -/
theorem SameTraffic.sameStream {w w' : World} (h : w.SameTraffic w') (c : Nat) :
    (w.account c).SameStream (w'.account c) := by
  rw [h.account_eq]
  exact ⟨rfl, rfl, rfl⟩

section Record

variable (w : World) (conn : Nat)

/-- The account after an event is the account before, with the event noted. Accounts are read off
the history alone, so this is all there is to know of what becomes of them. -/
@[simp] theorem account_record (event : Event) :
    (w.record event).account conn = (w.account conn).note conn event := rfl

/-- The tally after an event is the tally before, with the event noted. -/
@[simp] theorem tally_record (event : Event) : (w.record event).tally = w.tally.note event := rfl

/-- An event by itself makes no connection, also the one that says that a connection was made. -/
@[simp] theorem made_record (event : Event) : (w.record event).made = w.made := rfl

/-- Telling something to watchers leaves the account of every connection as it is. -/
@[simp] theorem account_tell (notice : Notice) : (w.tell notice).account conn = w.account conn :=
  rfl

/-- Telling something to watchers leaves the tally as it is, whatever they are told. -/
@[simp] theorem tally_tell (notice : Notice) : (w.tell notice).tally = w.tally := rfl

/-- Telling something to watchers makes no connection, whatever they are told. -/
@[simp] theorem made_tell (notice : Notice) : (w.tell notice).made = w.made := rfl

/-- Nothing happens to any connection while something is told to watchers. -/
theorem sameTraffic_tell (notice : Notice) : w.SameTraffic (w.tell notice) :=
  ⟨rfl, fun _ => rfl, rfl⟩

/-- Nothing happens to any connection while time is spent waiting. The sleep is noted in the
history, but in no account. -/
theorem sameTraffic_sleep (span : Duration) : w.SameTraffic (w.sleep span) :=
  ⟨rfl, fun _ => rfl, rfl⟩

end Record

end World

end CommandChannel
