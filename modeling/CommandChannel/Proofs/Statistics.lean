import CommandChannel.Proofs.Figures
import CommandChannel.Proofs.Outcomes

/-!
# Statistics

What a manager counts is what happened to it. Its counters never decrease, and after any operations
they agree with the history: attempts to open a connection, frames and replies with their bytes,
and commands for which the time was up.
-/

namespace CommandChannel

/-- No counter of `s` is above that of `t`. -/
structure Stats.Le (s t : Stats) : Prop where
  connects : s.connects ≤ t.connects
  failures : s.failures ≤ t.failures
  reconnects : s.reconnects ≤ t.reconnects
  sent : s.sent ≤ t.sent
  replies : s.replies ≤ t.replies
  timeouts : s.timeouts ≤ t.timeouts
  heartbeats : s.heartbeats ≤ t.heartbeats
  bytesSent : s.bytesSent ≤ t.bytesSent
  bytesReceived : s.bytesReceived ≤ t.bytesReceived

namespace Stats

/-- No counter is above itself, so that what is not counted decreases none. -/
theorem Le.refl (s : Stats) : s.Le s := by
  constructor <;> exact Nat.le_refl _

/-- Counters that do not decrease in two steps do not decrease in both together. -/
theorem Le.trans {s t u : Stats} (hst : s.Le t) (htu : t.Le u) : s.Le u where
  connects := Nat.le_trans hst.connects htu.connects
  failures := Nat.le_trans hst.failures htu.failures
  reconnects := Nat.le_trans hst.reconnects htu.reconnects
  sent := Nat.le_trans hst.sent htu.sent
  replies := Nat.le_trans hst.replies htu.replies
  timeouts := Nat.le_trans hst.timeouts htu.timeouts
  heartbeats := Nat.le_trans hst.heartbeats htu.heartbeats
  bytesSent := Nat.le_trans hst.bytesSent htu.bytesSent
  bytesReceived := Nat.le_trans hst.bytesReceived htu.bytesReceived

/-- Whatever is recorded, no counter decreases. There is one case for each kind of entry. -/
theorem le_step (now : Duration) (s : Stats) (entry : Step) : s.Le (s.step now entry).2 := by
  cases entry <;> constructor <;>
    simp [step, recordConnect, recordDisconnect, recordFailure, recordReconnect, recordSend,
      recordReceive, recordTimeout, recordHeartbeat]

end Stats

namespace Channel

section Moves

variable {P : Act → Prop} {s t : Channel} {act : Act}

/-- No move decreases a counter. There is one case for each kind of move; only two of them count
anything. -/
theorem Move.stats_le (h : s.Move act t) : s.manager.stats.Le t.manager.stats := by
  have hstep (entry : Stats.Step) : s.manager.stats.Le (s.manager.stats.step s.now entry).2 :=
    Stats.le_step _ _ _
  have hsame : s.manager.stats.Le s.manager.stats := Stats.Le.refl _
  cases h with
  | tell _ | touch | answer | sleep _ | take _ _ | settle _ _ | owe _ _ | wait _ => exact hsame
  | count entry => exact hstep entry
  | fault => constructor <;> exact Nat.le_refl _
  | change _ => simpa using hsame
  | close => simpa using hsame
  | dial _ => simpa using hsame
  | monitor _ =>
    unfold ensureHeartbeat
    split
    · exact hsame
    · exact hsame
    · split
      · exact hstep .heartbeat
      · exact hsame
  | send frame _ =>
    unfold sendFrame
    split
    · exact hsame
    · split
      · exact hsame
      · exact hstep (.send frame.length)
  | read _ =>
    unfold readReply
    split
    · exact hsame
    · split
      · exact hsame
      · rename_i size _ _ _
        exact hstep (.receive size)
  | stop =>
    rw [s.stopHeartbeat_eq.1]
    exact hsame
  | farewell =>
    obtain ⟨_, hmanager⟩ := s.manager_sendClose
    rw [hmanager]
    exact hsame

/-- No counter ever decreases, whatever moves are made, by induction on these. -/
theorem Moves.stats_le (h : s.Moves P t) : s.manager.stats.Le t.manager.stats :=
  h.keeps (I := fun u => s.manager.stats.Le u.manager.stats)
    (fun _ hmove hu => hu.trans hmove.stats_le) (.refl _)

end Moves

/-- Operations one after the other, each with the channel that it finds. -/
def trail (s : Channel) : List Operation → List (Channel × Operation)
  | [] => []
  | operation :: operations => (s, operation) :: (s.perform operation).trail operations

/-- A connection is requested where there is none. -/
def isRequest : Channel × Operation → Bool
  | (s, .connect) => !s.manager.state.isConnected
  | _ => false

/-- The command that an operation sends, if it sends one when it finds the channel. -/
def command? : Channel × Operation → Option Command
  | (_, .execute command) => some command
  | (_, .probe) => some .ping
  | (s, .heartbeat epoch) => if s.manager.epoch = epoch then some .ping else none
  | _ => none

/-- The time is up for a command: its last round trip ends with a timeout, and no byte had passed of
the frame that was being written or read. -/
def TimesOut (command : Command) (s : Channel) : Prop :=
  ∃ frame trips last, Frame.encode (.command command) = .ok frame ∧
    Course frame maxResends s trips (s.execute command).1 (s.execute command).2 ∧
    trips.getLast? = some last ∧ last.result = .error .timedOut

/-- The time is up for the command that an operation sends. -/
def IsTimeout (found : Channel × Operation) : Prop :=
  ∃ command, command? found = some command ∧ found.1.TimesOut command

section Runs

variable {requests : Nat} {s : Channel}

/-- An operation keeps the balance, with one more request if it is one. There is one case for each
operation. -/
theorem balanced_perform (h : s.figures.Balanced requests) (operation : Operation) :
    (s.perform operation).figures.Balanced
      (requests + if isRequest (s, operation) then 1 else 0) := by
  cases operation with
  | connect =>
    have hconnect := balanced_connect h
    cases hstate : s.manager.state.isConnected <;>
      simpa [perform, isRequest, hstate] using hconnect
  | disconnect =>
    change s.disconnect.2.figures.Balanced requests
    rwa [figures_disconnect]
  | execute command => exact balanced_execute command h
  | probe => exact balanced_execute .ping h
  | heartbeat epoch =>
    change (s.heartbeat epoch).2.figures.Balanced requests
    unfold heartbeat
    split
    · exact balanced_execute .ping h
    · exact h
  | wait span => exact h

/-- A run keeps the balance, by induction on its operations. The requests are those of its trail. -/
theorem balanced_run (h : s.figures.Balanced requests) (operations : List Operation) :
    (s.run operations).figures.Balanced (requests + (s.trail operations).countP isRequest) := by
  induction operations generalizing s requests with
  | nil => exact h
  | cons operation operations ih =>
    have hrest := ih (balanced_perform h operation)
    rwa [trail, List.countP_cons, Nat.add_comm (List.countP ..), ← Nat.add_assoc]

/-- A command counts as a timeout if the time is up for it, and otherwise it does not. The ways in
which commands end tell which. -/
theorem timeouts_execute (hconsistent : s.Consistent) (hlinked : s.Linked) (htidy : s.Tidy)
    (command : Command) [Decidable (s.TimesOut command)] :
    (s.execute command).2.manager.stats.timeouts =
      s.manager.stats.timeouts + if s.TimesOut command then 1 else 0 := by
  split
  · rename_i htime
    obtain ⟨frame, trips, last, hencode, hcourse, hlast, hresult⟩ := htime
    cases hcourse.ends_of_timedOut hencode hconsistent.isConnecting_eq hconsistent htidy hlast
      hresult with
    | timedOut _ _ _ _ _ _ _ _ _ _ htimeouts => exact htimeouts
  · rename_i htime
    obtain ⟨way, hends⟩ := exists_ends command hconsistent hlinked htidy
    cases hends with
    | unsendable _ _ hsame => rw [hsame, Nat.add_zero]
    | answered _ _ _ _ _ _ _ _ htimeouts => exact htimeouts
    | failed _ _ _ _ _ _ htimeouts => exact htimeouts
    | timedOut hencode hcourse hlast hresult =>
      exact absurd ⟨_, _, _, hencode, hcourse, hlast, hresult⟩ htime

/-- An operation that sends a command does nothing else, be it asked for by a user or by a
monitor. -/
theorem perform_of_command {operation : Operation} {command : Command}
    (h : command? (s, operation) = some command) :
    s.perform operation = (s.execute command).2 := by
  cases operation with
  | execute _ | probe =>
    cases h
    rfl
  | heartbeat epoch =>
    obtain ⟨hepoch, hping⟩ := Option.ite_none_right_eq_some.1 h
    cases hping
    simp only [perform, heartbeat, if_pos hepoch]
    rfl
  | connect | disconnect | wait _ => cases h

/-- An operation that sends no command is made of moves that count no timeout. -/
theorem Moves.perform_of_none (hconsistent : s.Consistent) {operation : Operation}
    (h : command? (s, operation) = none) :
    s.Moves (· ≠ .count .timeout) (s.perform operation) := by
  cases operation with
  | connect => exact .connect (fun _ => Act.ne_timeout) hconsistent.isConnecting_eq
  | disconnect => exact .disconnect (fun _ => Act.ne_timeout) (by simp)
  | execute _ | probe => cases h
  | heartbeat epoch =>
    have hstale : s.manager.epoch ≠ epoch := by simpa [command?] using h
    simp only [Channel.perform, Channel.heartbeat, if_neg hstale]
    exact Moves.refl.move (by simp) (.tell _)
  | wait span => exact Moves.refl.move (by simp) (.wait span)

/-- An operation counts as a timeout if it sends a command for which the time is up. -/
theorem timeouts_perform (hconsistent : s.Consistent) (hlinked : s.Linked) (htidy : s.Tidy)
    (operation : Operation) [Decidable (IsTimeout (s, operation))] :
    (s.perform operation).manager.stats.timeouts =
      s.manager.stats.timeouts + if IsTimeout (s, operation) then 1 else 0 := by
  classical
  cases hcommand : command? (s, operation) with
  | none =>
    have hnot : ¬ IsTimeout (s, operation) := by simp [IsTimeout, hcommand]
    rw [if_neg hnot, (Moves.perform_of_none hconsistent hcommand).timeouts_eq, Nat.add_zero]
  | some command =>
    have hiff : IsTimeout (s, operation) ↔ s.TimesOut command := by simp [IsTimeout, hcommand]
    rw [perform_of_command hcommand, timeouts_execute hconsistent hlinked htidy command]
    simp only [hiff]

open Classical in

/-- Over a run as many commands count as timeouts as the time was up for, by induction on its
operations. -/
theorem timeouts_run (hconsistent : s.Consistent) (hlinked : s.Linked) (htidy : s.Tidy)
    (operations : List Operation) :
    (s.run operations).manager.stats.timeouts =
      s.manager.stats.timeouts + (s.trail operations).countP (IsTimeout ·) := by
  induction operations generalizing s with
  | nil => rfl
  | cons operation operations ih =>
    have hreaches : Reaches (fun _ => True) s (s.perform operation) :=
      .perform hlinked fun _ _ => trivial
    have hmoves : s.Moves (fun _ => True) (s.perform operation) :=
      .perform (fun _ _ => trivial) hlinked hconsistent fun _ => trivial
    have hrest := ih (hreaches.consistent hconsistent) (hreaches.linked hlinked)
      (hmoves.keeps (fun _ hmove hu => hmove.tidy hu) htidy)
    have hfirst := timeouts_perform hconsistent hlinked htidy operation
    change ((s.perform operation).run operations).manager.stats.timeouts = _
    rw [hrest, hfirst, trail, List.countP_cons]
    simp only [decide_eq_true_eq]
    omega

end Runs

end Channel

namespace Scenario

open Channel

variable (sc : Scenario)

/-- At the beginning nothing is counted, and nothing happened. So the two agree. -/
theorem balanced_start : sc.start.figures.Balanced 0 :=
  ⟨rfl, rfl, rfl, rfl, rfl, rfl, rfl, Nat.le_refl 0, Nat.le_refl 0⟩

/-- What is counted agrees with what the history tells, whatever was done. -/
theorem balanced_after (operations : List Operation) :
    (sc.after operations).figures.Balanced ((sc.start.trail operations).countP isRequest) := by
  have h := balanced_run sc.balanced_start operations
  rwa [Nat.zero_add] at h

open Classical in
/-- The statistics agree with what happened. Every attempt to open a connection counts once, as a
success or as a failure; frames of commands count when they left as a whole, and replies when they
were read; as many timeouts are counted as there were; and no counter ever decreases. -/
theorem statistics_after (operations : List Operation) :
    let s := sc.after operations
    let stats := s.manager.stats
    let totals := s.world.totals
    let found := sc.start.trail operations
    -- Each attempt begins with a lookup, and is made again after a loss or on request.
    (stats.connects + stats.failures = s.world.tally.lookups ∧
      stats.connects = totals.connections ∧
      stats.connects + stats.failures = stats.reconnects + found.countP isRequest ∧
      ∀ u : Channel, u.manager.state ≠ .connected →
        u.figures.CountsOnce u.connect.1 u.connect.2.figures ∧
          u.figures.CountsOnce u.attempt.1 u.attempt.2.figures) ∧
    (stats.sent = totals.sent.length ∧ stats.bytesSent = totals.bytesSent ∧
      stats.replies = totals.received.length ∧ stats.bytesReceived = totals.bytesReceived) ∧
    -- Whatever a connection takes or gives is in the totals, and no move adds anything else.
    (∀ (u : Channel) (link : Link), u.manager.link = some link →
      (∀ frame, link.Takes frame u.world →
        (u.sendFrame frame).2.world.totals = u.world.totals.send link.number frame) ∧
      ∀ reply size, link.Gives reply size u.world →
        u.readReply.2.world.totals = u.world.totals.receive ⟨link.number, reply, size⟩) ∧
    (∀ (u v : Channel) (act : Act), u.Move act v →
      v.world.totals = u.world.totals ∨
      (v.manager.state = .connected ∧ u.manager.state ≠ .connected ∧
        v.world.totals = u.world.totals.connect) ∨
      (∃ link frame, v = (u.sendFrame frame).2 ∧ u.manager.link = some link ∧
        link.Takes frame u.world ∧ v.world.totals = u.world.totals.send link.number frame) ∨
      ∃ link reply size, v = u.readReply.2 ∧ u.manager.link = some link ∧
        link.Gives reply size u.world ∧
        v.world.totals = u.world.totals.receive ⟨link.number, reply, size⟩) ∧
    (∀ u : Channel, u.disconnect.2.world.totals = u.world.totals) ∧
    stats.replies + s.manager.owedReplies ≤ stats.sent ∧
    stats.timeouts = found.countP (IsTimeout ·) ∧
    stats.heartbeats ≤ stats.connects ∧
    (∀ more, stats.Le (sc.after (operations ++ more)).manager.stats) ∧
    ∀ t, s.Moves (fun _ => True) t → stats.Le t.manager.stats := by
  intro s stats totals found
  have hbalanced := sc.balanced_after operations
  have htimeouts : stats.timeouts = found.countP (IsTimeout ·) := by
    have hrun := timeouts_run sc.consistent_start sc.linked_start (sc.tidy_after []) operations
    rwa [show sc.start.manager.stats.timeouts = 0 from rfl, Nat.zero_add] at hrun
  refine ⟨⟨hbalanced.lookups, hbalanced.connections, hbalanced.requests, ?_⟩,
    ⟨hbalanced.sent, hbalanced.bytesSent, hbalanced.replies, hbalanced.bytesReceived⟩, ?_, ?_, ?_,
    hbalanced.owed, htimeouts, hbalanced.heartbeats, ?_, ?_⟩
  · exact fun u hstate => countsOnce_connect_attempt hstate
  · exact fun u link hlink => ⟨fun frame htakes => totals_sendFrame_of_takes hlink htakes,
      fun reply size hgives => totals_readReply_of_gives hlink hgives⟩
  · exact fun u v act hmove => hmove.totals_cases
  · exact fun u => congrArg Figures.totals u.figures_disconnect
  · intro more
    have hmoves := Moves.run (sc.linked_after operations) (sc.consistent_after operations) more
    rw [sc.after_append]
    exact hmoves.stats_le
  · exact fun t hmoves => hmoves.stats_le

end Scenario

end CommandChannel
