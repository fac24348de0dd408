import CommandChannel.Proofs.Correlation
import CommandChannel.Proofs.Faults
import CommandChannel.Proofs.Moves

/-!
# How commands end

A command ends in one of four ways, and each of them settles both its outcome and what has become
of the connection: it has no frame and nothing happens, it is answered, its time is up and the
connection is kept, or there is no connection any longer. Only a command without a frame, or a peer
that says so, makes it useless to try again.
-/

namespace CommandChannel

/-- An ordinary move counts no timeout, so that the count of timeouts passes over it. -/
theorem Act.ne_timeout {act : Act} (h : act.isOrdinary = true) : act ≠ .count .timeout :=
  Act.ne_of_isOrdinary rfl h

namespace Channel

/-- The ways in which a command ends. -/
inductive Way where
  /-- There is no frame for it. -/
  | unsendable (e : ChannelError)
  /-- The reply to it came. -/
  | answered (reply : Response)
  /-- The time was up, and no byte of a frame had passed. -/
  | timedOut
  /-- Anything else. -/
  | failed

/-- A command that found the channel `s` ended in a way, with an outcome, and left the channel
`t`. -/
inductive Ends (command : Command) (s : Channel) (outcome : Outcome) (t : Channel) :
    Way → Prop where
  | unsendable {e : ChannelError} (hencode : Frame.encode (.command command) = .error e)
      (houtcome : outcome = .fail e.message false) (hsame : t = s) :
      Ends command s outcome t (.unsendable e)
  /-- The reply is the last one that was read from the connection, which is kept. -/
  | answered {frame : List UInt8} {trips : List Trip} {last : Trip} {reply : Response}
      (hencode : Frame.encode (.command command) = .ok frame)
      (hcourse : Course frame maxResends s trips outcome t) (hlast : trips.getLast? = some last)
      (hresult : last.result = .ok reply) (houtcome : outcome = reply.toOutcome)
      (hstate : t.manager.state = .connected) (hconn : t.conn = some last.conn)
      (hreply : (t.world.account last.conn).received.getLast? = some reply)
      (htimeouts : t.manager.stats.timeouts = s.manager.stats.timeouts) :
      Ends command s outcome t (.answered reply)
  /-- The connection to which the frame was offered last is kept. -/
  | timedOut {frame : List UInt8} {trips : List Trip} {last : Trip} {text : String}
      (hencode : Frame.encode (.command command) = .ok frame)
      (hcourse : Course frame maxResends s trips outcome t) (hlast : trips.getLast? = some last)
      (hresult : last.result = .error .timedOut) (houtcome : outcome = .fail text true)
      (hstate : t.manager.state = .connected) (hconn : t.conn = some last.conn)
      (hoffered : t.world.tally.offers.getLast? = some (last.conn, frame))
      (hopen : (t.world.account last.conn).isOpen = true)
      (hshutdown : ¬ t.world.Happened (.shutdown last.conn))
      (htimeouts : t.manager.stats.timeouts = s.manager.stats.timeouts + 1) :
      Ends command s outcome t .timedOut
  /-- There is no connection any longer. -/
  | failed {frame : List UInt8} {trips : List Trip} {text : String}
      (hencode : Frame.encode (.command command) = .ok frame)
      (hcourse : Course frame maxResends s trips outcome t)
      (hresult : ∀ last, trips.getLast? = some last →
        ∃ e, last.result = .error e ∧ e ≠ .timedOut)
      (houtcome : outcome = .fail text true) (hstate : t.manager.state = .error)
      (hlink : t.manager.link = none)
      (htimeouts : t.manager.stats.timeouts = s.manager.stats.timeouts) :
      Ends command s outcome t .failed

/-- Every connection that was shut down is given up. -/
def Tidy (s : Channel) : Prop :=
  ∀ c, s.world.Happened (.shutdown c) → s.world.Happened (.closed c)

section Moves

variable {s t : Channel} {act : Act}

/-- Every move gives up the connection that it shuts down. There is one case for each kind of move,
and only giving a connection up shuts one down. -/
theorem Move.tidy (h : s.Move act t) (hs : s.Tidy) : t.Tidy := by
  intro c
  by_cases hchange : act = .change
  · subst hchange
    cases h with
    | @change next _ =>
      unfold transition
      dsimp only
      split
      · exact hs c
      · simp only [world_record, World.happened_record, reduceCtorEq, false_or]
        exact hs c
  · by_cases hclose : act = .close
    · subst hclose
      cases h with
      | close =>
        unfold closeLink
        split
        · exact hs c
        · simp only [Link.shutdown, World.happened_record, Event.shutdown.injEq, Event.closed.injEq,
            reduceCtorEq, false_or]
          exact Or.imp_right (hs c)
    · -- No other move shuts a connection down.
      have hgrows := h.adds hchange hclose
      intro hshut
      exact hgrows.happened (hs c ((hgrows.happened_iff id).1 hshut))

/-- Only a command that is not answered in time counts as such. There is one case for each kind of
move. -/
theorem Move.timeouts_eq (h : s.Move act t) (hact : act ≠ .count .timeout) :
    t.manager.stats.timeouts = s.manager.stats.timeouts := by
  cases h with
  | tell _ | fault | touch | answer | sleep _ | take _ _ | settle _ _ | owe _ _ | wait _ => rfl
  | count entry =>
    cases entry with
    | timeout => exact absurd rfl hact
    | connect | disconnect | failure | reconnect | send | receive | heartbeat | advance => rfl
  | change _ => simp
  | close => simp
  | dial _ => simp
  | monitor _ =>
    unfold ensureHeartbeat
    split
    · rfl
    · rfl
    · split <;> rfl
  | send frame _ =>
    unfold sendFrame
    split
    · rfl
    · split <;> rfl
  | read _ =>
    unfold readReply
    split
    · rfl
    · split <;> rfl
  | stop => rw [s.stopHeartbeat_eq.1]
  | farewell =>
    obtain ⟨_, hmanager⟩ := s.manager_sendClose
    rw [hmanager]

/-- Unless a command is not answered in time, no more of them count as such, however many moves are
made. -/
theorem Moves.timeouts_eq (h : s.Moves (· ≠ .count .timeout) t) :
    t.manager.stats.timeouts = s.manager.stats.timeouts := by
  refine h.keeps (I := fun u => u.manager.stats.timeouts = s.manager.stats.timeouts) ?_ rfl
  intro u v act hact hmove hu
  exact (hmove.timeouts_eq hact).trans hu

end Moves

section Trips

variable {frame : List UInt8} {trip : Trip} {resends : Nat} {outcome : Outcome} {s t : Channel}
  {e : ChannelError}

/-- The connection of a round trip stays in use until its end is told, however it ended. -/
theorem Trip.Runs.conn_after (h : trip.Runs frame) (hframe : frame ≠ []) :
    trip.after.conn = some trip.conn := by
  obtain ⟨link, trade, replies, -, hnumber, -, htrades⟩ := h.exists_trades hframe
  obtain ⟨link', hlink', hsame, -⟩ := htrades.exists_link
  rw [Channel.conn_eq hlink', hsame, hnumber]

/-- The reply with which a round trip ended is the last one that was read from the connection. -/
theorem Trip.Runs.getLast?_received (h : trip.Runs frame) (hframe : frame ≠ []) {reply : Response}
    (hresult : trip.result = .ok reply) :
    (trip.after.world.account trip.conn).received.getLast? = some reply := by
  obtain ⟨link, trade, replies, -, hnumber, -, htrades⟩ := h.exists_trades hframe
  rw [hresult] at htrades
  exact hnumber ▸ htrades.getLast?_received

/-- Giving up leaves neither a connection nor a state in which there could be one. -/
theorem down_of_reconnect (h : s.reconnect = (false, t)) :
    t.manager.state = .error ∧ t.manager.link = none := by
  rcases s.reconnect_cases with ⟨_, _, u, hu, -⟩ | ⟨_, u, hu, hgives⟩
  · rw [hu] at h
    cases h
  · rw [hu] at h
    cases h
    obtain ⟨_, hmanager⟩ := hgives.manager_eq
    rw [hmanager]
    exact ⟨rfl, s.link_closeLink⟩

/-- A failure leaves neither a connection nor a state in which there could be one. -/
theorem down_fail (s : Channel) : s.fail.manager.state = .error ∧ s.fail.manager.link = none := by
  obtain ⟨_, hmanager⟩ := s.manager_fail
  rw [hmanager]
  exact ⟨rfl, rfl⟩

/-- A command whose last round trip ended with a reply is answered by it, and nothing happens after
that. -/
theorem Ending.eq_of_ok (h : Ending trip resends outcome t) {reply : Response}
    (hresult : trip.result = .ok reply) : outcome = reply.toOutcome ∧ t = trip.after := by
  cases h with
  | answered hanswer =>
    rw [hanswer] at hresult
    cases hresult
    exact ⟨rfl, rfl⟩
  | timedOut herror _ | failed herror _ _ | lost herror _ | lostForGood herror _ _ =>
    rw [herror] at hresult
    cases hresult

/-- A command for which the time was up leaves the connection as the last round trip left it. It
only counts the timeout and tells of it. -/
theorem Ending.eq_of_timedOut (h : Ending trip resends outcome t)
    (hresult : trip.result = .error .timedOut) :
    ∃ text notice, outcome = .fail text true ∧
      t = (trip.after.count (Stats.recordTimeout trip.after.now)).tell notice := by
  cases h with
  | answered hanswer =>
    rw [hanswer] at hresult
    cases hresult
  | timedOut _ _ => exact ⟨_, _, rfl, rfl⟩
  | failed herror htimeout _ =>
    rw [herror] at hresult
    cases hresult
    cases htimeout
  | lost herror hloss | lostForGood herror hloss _ =>
    rw [herror] at hresult
    cases hresult
    cases hloss

/-- A command that ended with another error leaves no connection, and may be sent again later. -/
theorem Ending.down (h : Ending trip resends outcome t) (hresult : trip.result = .error e)
    (hother : e ≠ .timedOut) (hrecoverable : e.isRecoverable = true) :
    (∃ text, outcome = .fail text true) ∧ t.manager.state = .error ∧ t.manager.link = none := by
  cases h with
  | answered hanswer =>
    rw [hanswer] at hresult
    cases hresult
  | timedOut herror htimeout =>
    rw [herror] at hresult
    cases hresult
    exact absurd (ChannelError.isTimeout_iff.1 htimeout) hother
  | failed herror _ _ =>
    rw [herror] at hresult
    cases hresult
    exact ⟨⟨_, by rw [hrecoverable]⟩, down_fail _⟩
  | lost _ _ => exact ⟨⟨_, rfl⟩, down_fail _⟩
  | lostForGood _ _ hreconnect => exact ⟨⟨_, rfl⟩, down_of_reconnect hreconnect⟩

end Trips

section Ways

variable {command : Command} {frame : List UInt8} {trips : List Trip} {last : Trip}
  {outcome : Outcome} {s t : Channel}

/-- Up to the end of the last round trip of a command nothing counts as a timeout. -/
theorem Course.exists_last (h : Course frame maxResends s trips outcome t) (hframe : frame ≠ [])
    (hrest : s.manager.state.isConnecting = false) (hlast : trips.getLast? = some last) :
    last.Runs frame ∧ last.after.manager.stats.timeouts = s.manager.stats.timeouts ∧
      ∃ left, Ending last left outcome t := by
  have hmem := List.mem_of_getLast? hlast
  have hruns := (h.reaches_before (P := fun _ => True) trivial hframe last hmem).2
  have hmoves := h.moves_before (fun _ => Act.ne_timeout) hrest last hmem
  obtain ⟨left, -, hending⟩ := h.exists_ending hlast
  exact ⟨hruns, (hmoves.trans (hruns.moves fun _ => Act.ne_timeout).1).timeouts_eq, left, hending⟩

section Encoded

variable (h : Course frame maxResends s trips outcome t)
  (hencode : Frame.encode (.command command) = .ok frame)
  (hrest : s.manager.state.isConnecting = false)
include h hencode hrest

/-- A command that made no round trip failed, as no connection could be had for it. -/
theorem Course.ends_of_nil (hnone : trips.getLast? = none) : Ends command s outcome t .failed := by
  rw [List.getLast?_eq_none_iff] at hnone
  subst hnone
  have hcourse := h
  cases hcourse with
  | unreachable hensure =>
    have hmoves := Moves.ensureLink (fun _ => Act.ne_timeout) hrest hensure
    rcases ensureLink_cases hensure with ⟨-, hdone, -⟩ | ⟨-, hreconnect⟩
    · cases hdone
    · obtain ⟨hstate, hlink⟩ := down_of_reconnect hreconnect
      exact .failed hencode h (by simp) rfl hstate hlink hmoves.timeouts_eq

/-- A command whose last round trip ended with a reply was answered by it. -/
theorem Course.ends_of_ok (hlast : trips.getLast? = some last) {reply : Response}
    (hresult : last.result = .ok reply) : Ends command s outcome t (.answered reply) := by
  have hframe := Frame.ne_nil_of_encode hencode
  obtain ⟨hruns, htimeouts, left, hending⟩ := h.exists_last hframe hrest hlast
  obtain ⟨houtcome, rfl⟩ := hending.eq_of_ok hresult
  exact .answered hencode h hlast hresult houtcome (hruns.moves fun _ => Act.ne_timeout).2
    (hruns.conn_after hframe) (hruns.getLast?_received hframe hresult) htimeouts

/-- A command whose last round trip took too long keeps the connection, and is the only one to count
as such. -/
theorem Course.ends_of_timedOut (hconsistent : s.Consistent) (htidy : s.Tidy)
    (hlast : trips.getLast? = some last) (hresult : last.result = .error .timedOut) :
    Ends command s outcome t .timedOut := by
  have hframe := Frame.ne_nil_of_encode hencode
  have hreached := h.reaches (P := fun _ => True) trivial hframe
  have hmoves : s.Moves (fun _ => True) t :=
    h.moves (fun _ _ => trivial) hrest fun _ _ _ _ _ => trivial
  have htidied : t.Tidy := hmoves.keeps (fun _ hmove hu => hmove.tidy hu) htidy
  have hoffered : t.world.tally.offers.getLast? = some (last.conn, frame) := by
    rw [h.offers_eq hframe, List.getLast?_append, List.getLast?_map, hlast]
    rfl
  obtain ⟨hruns, htimeouts, left, hending⟩ := h.exists_last hframe hrest hlast
  obtain ⟨text, notice, houtcome, rfl⟩ := hending.eq_of_timedOut hresult
  have hconn := hruns.conn_after hframe
  have hopen := ((hreached.consistent hconsistent).isOpen_iff _).2 hconn
  refine .timedOut hencode h hlast hresult houtcome (hruns.moves fun _ => Act.ne_timeout).2 hconn
    hoffered hopen ?_ (congrArg (· + 1) htimeouts)
  -- What was shut down was given up, but this connection is still in use.
  intro hshutdown
  have hclosed := World.closed_of_happened (htidied _ hshutdown)
  rw [Account.isOpen, hclosed, Bool.not_true, Bool.and_false] at hopen
  cases hopen

/-- A command whose last round trip ended with another error failed, whether the connection was lost
or not. -/
theorem Course.ends_of_error (hlast : trips.getLast? = some last) {e : ChannelError}
    (hresult : last.result = .error e) (hother : e ≠ .timedOut) :
    Ends command s outcome t .failed := by
  obtain ⟨hruns, htimeouts, left, hending⟩ :=
    h.exists_last (Frame.ne_nil_of_encode hencode) hrest hlast
  obtain ⟨⟨text, houtcome⟩, hstate, hlink⟩ :=
    hending.down hresult hother (hruns.isRecoverable hresult)
  have hmoves : last.after.Moves (· ≠ .count .timeout) t := by
    refine hending.moves (fun _ => Act.ne_timeout) (hruns.moves fun _ => Act.ne_timeout).2 ?_
    intro e' hresult' htimeout
    rw [hresult] at hresult'
    cases hresult'
    exact absurd (ChannelError.isTimeout_iff.1 htimeout) hother
  refine .failed hencode h ?_ houtcome hstate hlink (hmoves.timeouts_eq.trans htimeouts)
  intro other hsame
  rw [hlast] at hsame
  cases hsame
  exact ⟨e, hresult, hother⟩

end Encoded

/-- A command ends in one of the ways. The cases are those of its last round trip. -/
theorem exists_ends (command : Command) (hconsistent : s.Consistent) (hlinked : s.Linked)
    (htidy : s.Tidy) :
    ∃ way, Ends command s (s.execute command).1 (s.execute command).2 way := by
  have hrest := hconsistent.isConnecting_eq
  rcases execute_cases command hlinked with ⟨e, hencode, heq⟩ | ⟨frame, trips, hencode, hcourse⟩
  · rw [heq]
    exact ⟨_, .unsendable hencode rfl rfl⟩
  · cases hlast : trips.getLast? with
    | none => exact ⟨_, hcourse.ends_of_nil hencode hrest hlast⟩
    | some last =>
      cases hresult : last.result with
      | ok reply => exact ⟨_, hcourse.ends_of_ok hencode hrest hlast hresult⟩
      | error e =>
        by_cases htime : e = .timedOut
        · subst htime
          exact ⟨_, hcourse.ends_of_timedOut hencode hrest hconsistent htidy hlast hresult⟩
        · exact ⟨_, hcourse.ends_of_error hencode hrest hlast hresult htime⟩

/-- No command ends in two ways: what it leaves tells them apart. So the ways are a division, and
not only a list. -/
theorem Ends.unique {way other : Way} (h : Ends command s outcome t way)
    (hother : Ends command s outcome t other) : other = way := by
  -- Of the commands with a frame only one that failed leaves no connection, and only one whose time
  -- was up counts as a timeout. A reply is known by the connection that it was read from.
  cases h with
  | unsendable hencode _ _ =>
    cases hother with
    | unsendable hencode' _ _ =>
      rw [hencode] at hencode'
      cases hencode'
      rfl
    | answered hencode' | timedOut hencode' | failed hencode' =>
      rw [hencode] at hencode'
      cases hencode'
  | answered hencode _ _ _ _ hstate hconn hreply htimeouts =>
    cases hother with
    | unsendable hencode' _ _ =>
      rw [hencode] at hencode'
      cases hencode'
    | answered _ _ _ _ _ _ hconn' hreply' _ =>
      rw [hconn] at hconn'
      rw [Option.some_inj.1 hconn', hreply'] at hreply
      cases hreply
      rfl
    | timedOut _ _ _ _ _ _ _ _ _ _ htimeouts' => omega
    | failed _ _ _ _ hstate' _ _ =>
      rw [hstate] at hstate'
      cases hstate'
  | timedOut hencode _ _ _ _ hstate _ _ _ _ htimeouts =>
    cases hother with
    | unsendable hencode' _ _ =>
      rw [hencode] at hencode'
      cases hencode'
    | answered _ _ _ _ _ _ _ _ htimeouts' => omega
    | timedOut => rfl
    | failed _ _ _ _ hstate' _ _ =>
      rw [hstate] at hstate'
      cases hstate'
  | failed hencode _ _ _ hstate _ _ =>
    cases hother with
    | unsendable hencode' _ _ =>
      rw [hencode] at hencode'
      cases hencode'
    | answered _ _ _ _ _ hstate' | timedOut _ _ _ _ _ hstate' =>
      rw [hstate] at hstate'
      cases hstate'
    | failed => rfl

/-- Only a reply with the status of a success makes a command one. -/
theorem Ends.success_cases {way : Way} (h : Ends command s outcome t way)
    (hsuccess : outcome.success = true) :
    ∃ reply, way = .answered reply ∧ reply.status = some "success" := by
  cases h with
  | unsendable _ houtcome _ | timedOut _ _ _ _ houtcome | failed _ _ _ houtcome =>
    rw [houtcome] at hsuccess
    cases hsuccess
  | @answered _ _ _ reply _ _ _ _ houtcome =>
    refine ⟨reply, rfl, ?_⟩
    rw [houtcome, Response.toOutcome] at hsuccess
    split at hsuccess
    · rename_i hstatus
      exact beq_iff_eq.1 hstatus
    · cases hsuccess

/-- Only a command without a frame, or a reply that says so, makes it useless to try again. -/
theorem Ends.unrecoverable_cases {way : Way} (h : Ends command s outcome t way)
    (hunrecoverable : outcome.recoverable = false) :
    (∃ e, way = .unsendable e) ∨
      ∃ reply, way = .answered reply ∧ reply.recoverable = some false := by
  cases h with
  | unsendable _ _ _ => exact .inl ⟨_, rfl⟩
  | timedOut _ _ _ _ houtcome | failed _ _ _ houtcome =>
    rw [houtcome] at hunrecoverable
    cases hunrecoverable
  | @answered _ _ _ reply _ _ _ _ houtcome =>
    refine .inr ⟨reply, rfl, ?_⟩
    rw [houtcome, Response.toOutcome] at hunrecoverable
    split at hunrecoverable
    · cases hunrecoverable
    · cases hrecoverable : reply.recoverable with
      | none => simp [Outcome.fail, hrecoverable] at hunrecoverable
      | some recoverable => simpa [Outcome.fail, hrecoverable] using hunrecoverable

end Ways

end Channel

namespace Scenario

open Channel

variable (sc : Scenario)

/-- Between operations every connection that was shut down is given up. -/
theorem tidy_after (operations : List Operation) : (sc.after operations).Tidy := by
  refine (sc.moves_after operations).keeps (fun _ hmove hu => hmove.tidy hu) ?_
  intro c hshutdown
  cases hshutdown

/-- A command ends in exactly one of four ways. Only a reply with the status of a success makes it
one, and only a command without a frame, or a reply that says so, makes it useless to try again. -/
theorem outcome_after (operations : List Operation) (command : Command) :
    let s := sc.after operations
    ∃ outcome t way, s.execute command = (outcome, t) ∧ Ends command s outcome t way ∧
      (∀ other, Ends command s outcome t other → other = way) ∧
      (outcome.success = true → ∃ reply, way = .answered reply ∧ reply.status = some "success") ∧
      (outcome.recoverable = false → (∃ e, way = .unsendable e) ∨
        ∃ reply, way = .answered reply ∧ reply.recoverable = some false) := by
  intro s
  obtain ⟨way, hends⟩ : ∃ way, Ends command s (s.execute command).1 (s.execute command).2 way :=
    exists_ends command (sc.consistent_after operations) (sc.linked_after operations)
      (sc.tidy_after operations)
  clear_value s
  rcases hexecute : s.execute command with ⟨outcome, t⟩
  rw [hexecute] at hends
  exact ⟨outcome, t, way, rfl, hends, fun _ => hends.unique, hends.success_cases,
    hends.unrecoverable_cases⟩

end Scenario

end CommandChannel
