import CommandChannel.Proofs.Correlation
import CommandChannel.Proofs.Idling
import CommandChannel.Proofs.Invariants

/-!
# Activity

A manager remembers when it was last active: when it was made, when it opened a connection, or when
a command was answered by its own reply. The history tells the same, and so the time since the last
activity can be read off it.
-/

namespace CommandChannel

open Channel

namespace Channel

section Replies

variable {s t : Channel}

/-- The command is answered at this moment. -/
def answer (s : Channel) : Channel := s.touch.record .answered

/-- Nothing that is read counts as activity before the reply that is waited for. If that reply never
comes, no activity is left at all, so a peer that sends only late replies stays idle. -/
theorem awaitReply_activity (late : Nat) (s : Channel) :
    (∃ e t, awaitReply late s = (.error e, t) ∧ s.Idles t) ∨
      ∃ reply u, awaitReply late s = (.ok reply, u.answer) ∧ s.Idles u := by
  induction late generalizing s with
  | zero =>
    have hread := s.idles_readReply
    unfold awaitReply
    rcases hreply : s.readReply with ⟨e | reply, u⟩ <;> rw [hreply] at hread
    · exact .inl ⟨e, u, rfl, hread⟩
    · exact .inr ⟨reply, u.owe 0, rfl, hread.trans (u.idles_owe 0)⟩
  | succ late ih =>
    have hread := s.idles_readReply
    unfold awaitReply
    rcases hreply : s.readReply with ⟨e | reply, u⟩ <;> rw [hreply] at hread
    · exact .inl ⟨e, u, rfl, hread⟩
    · have hlate := (hread.trans (u.idles_owe (late + 1))).trans
        (idles_tell _ (.lateReply (late + 1)))
      rcases ih ((u.owe (late + 1)).tell (.lateReply (late + 1))) with
        ⟨e, t, heq, hrest⟩ | ⟨reply, v, heq, hrest⟩
      · exact .inl ⟨e, t, heq, hlate.trans hrest⟩
      · exact .inr ⟨reply, v, heq, hlate.trans hrest⟩

/-- A round trip counts as activity at its end, if it ends in the reply to its own frame. -/
theorem roundTrip_activity (frame : List UInt8) (s : Channel) :
    (∃ e t, s.roundTrip frame = (.error e, t) ∧ s.Idles t) ∨
      ∃ reply u, s.roundTrip frame = (.ok reply, u.answer) ∧ s.Idles u := by
  have hsent := s.idles_sendFrame frame
  unfold roundTrip
  rcases hsend : s.sendFrame frame with ⟨e | _, t⟩ <;> rw [hsend] at hsent
  · exact .inl ⟨e, t, rfl, hsent⟩
  · rcases awaitReply_activity (t.manager.owedReplies - 1) t with
      ⟨e, u, heq, hrest⟩ | ⟨reply, u, heq, hrest⟩
    · exact .inl ⟨e, u, heq, hsent.trans hrest⟩
    · exact .inr ⟨reply, u, heq, hsent.trans hrest⟩

/-- A round trip that ends in an error is no activity, whatever late replies it met. -/
theorem Idles.of_roundTrip {frame : List UInt8} {e : ChannelError}
    (h : s.roundTrip frame = (.error e, t)) : s.Idles t := by
  rcases s.roundTrip_activity frame with ⟨_, _, heq, hidles⟩ | ⟨_, _, heq, -⟩
  · cases heq.symm.trans h
    exact hidles
  · cases heq.symm.trans h

/-- A round trip that ends in a reply idles until the answer, which is the last thing that happens
in it. So its end is the moment of the last activity. -/
theorem exists_answer_of_roundTrip {frame : List UInt8} {reply : Response}
    (h : s.roundTrip frame = (.ok reply, t)) : ∃ u, s.Idles u ∧ t = u.answer := by
  rcases s.roundTrip_activity frame with ⟨_, _, heq, -⟩ | ⟨_, u, heq, hidles⟩
  · cases heq.symm.trans h
  · cases heq.symm.trans h
    exact ⟨u, hidles, rfl⟩

/-- No time has passed since the last activity when a command was just answered. -/
theorem idle_answer (s : Channel) : s.answer.idle = .zero := by
  apply Duration.ext
  exact Nat.sub_self _

end Replies

/-- The last activity of a manager is the latest of its beginning, the last opening of a connection
and the last answer to a command. -/
structure Dated (start : Duration) (s : Channel) : Prop where
  activity_eq : s.manager.lastActivity = max start
    (max ((s.world.last? Event.isOpening).getD start) ((s.world.last? Event.isAnswer).getD start))
  activity_le : s.manager.lastActivity ≤ s.now

section Dated

variable {start : Duration} {s t : Channel}

/-- What is no activity leaves its date as it is: neither the manager's own record of it nor any of
the three moments it is the latest of changes, while time may pass. -/
theorem Dated.idles (hs : s.Dated start) (h : s.Idles t) : t.Dated start where
  activity_eq := by
    have hopening : t.world.last? Event.isOpening = s.world.last? Event.isOpening :=
      h.world.last?_eq fun event hevent => by rw [Event.isActivity, hevent, Bool.true_or]
    have hanswer : t.world.last? Event.isAnswer = s.world.last? Event.isAnswer :=
      h.world.last?_eq fun event hevent => by rw [Event.isActivity, hevent, Bool.or_true]
    rw [h.activity_eq, hopening, hanswer, hs.activity_eq]
  activity_le := by
    rw [h.activity_eq]
    exact Duration.le_trans hs.activity_le h.world.now_le

/-- Activity at this moment is later than all that was before. It is one of two kinds, and the date
of the other kind stays as it was. -/
theorem Dated.of_activity (hs : s.Dated start) (hnow : t.now = s.now)
    (hactivity : t.manager.lastActivity = s.now)
    (hlast : (t.world.last? Event.isOpening = some s.now ∧
        t.world.last? Event.isAnswer = s.world.last? Event.isAnswer) ∨
      (t.world.last? Event.isOpening = s.world.last? Event.isOpening ∧
        t.world.last? Event.isAnswer = some s.now)) : t.Dated start := by
  have hle := hs.activity_le
  rw [hs.activity_eq] at hle
  simp only [Duration.le_iff, Duration.nanos_max] at hle
  constructor
  · apply Duration.ext
    rw [hactivity, Duration.nanos_max, Duration.nanos_max]
    rcases hlast with ⟨hopening, hanswer⟩ | ⟨hopening, hanswer⟩
    · rw [hopening, hanswer, Option.getD_some]
      omega
    · rw [hopening, hanswer, Option.getD_some]
      omega
  · rw [hactivity, hnow]
    exact s.now.le_refl

/-- An answer to a command is activity at this moment, and the latest of the three dates from then
on. -/
theorem Dated.answer (hs : s.Dated start) : s.answer.Dated start := by
  have hnow : s.answer.now = s.now := rfl
  apply hs.of_activity hnow rfl
  right
  constructor
  · exact World.last?_record_of_false rfl s.world
  · exact World.last?_record_of_true rfl s.world

/-- A manager that goes over to a connection was active then. It must not have been connected
before, since only a change of state is noted as an opening. -/
theorem Dated.adopt (hs : s.Dated start) (hstate : s.manager.state ≠ .connected) (link : Link) :
    (s.adopt link).Dated start := by
  obtain ⟨hmanager, hnow, -⟩ := s.adopt_eq link
  have hworld : (s.adopt link).world =
      (s.world.tell (.connected link.peerAddr)).record (.change s.manager.state .connected) := by
    let taken := ((s.tell (.connected link.peerAddr)).take link).count (Stats.recordConnect s.now)
    have hadopted : s.adopt link = (taken.transition .connected).touch := rfl
    have hchanged : taken.manager.state ≠ .connected := hstate
    rw [hadopted, world_touch, taken.world_transition_of_ne hchanged]
    rfl
  apply hs.of_activity hnow
  · rw [hmanager]
    rfl
  · left
    rw [hworld]
    constructor
    · exact World.last?_record_of_true rfl _
    · rw [World.last?_record_of_false rfl]
      exact World.last?_record_of_false rfl s.world

/-- A manager that is given a connection was active then; seeing to the monitor is no activity. -/
theorem Dated.establish (hs : s.Dated start) (hstate : s.manager.state ≠ .connected)
    (link : Link) : (s.establish link).Dated start := by
  rw [establish_eq]
  exact (hs.adopt hstate link).idles (s.adopt link).idles_ensureHeartbeat

/-- An attempt to open a connection is activity if it succeeds, and none if it fails. -/
theorem Dated.openLink (hs : s.Dated start) (hstate : s.manager.state ≠ .connected) :
    s.openLink.2.Dated start := by
  have hdialed := hs.idles (s.idles_closeLink.trans s.closeLink.idles_dial)
  have hsame : s.closeLink.dial.2.manager.state = s.manager.state := by simp
  unfold Channel.openLink
  rcases hdial : s.closeLink.dial with ⟨e | link, u⟩ <;> rw [hdial] at hdialed hsame
  · exact hdialed
  · exact hdialed.establish (by rwa [hsame]) link

/-- A round trip is activity if it is answered, and none otherwise. -/
theorem Dated.roundTrip (hs : s.Dated start) {frame : List UInt8}
    {result : Except ChannelError Response} (h : s.roundTrip frame = (result, t)) :
    t.Dated start := by
  cases result with
  | error e => exact hs.idles (.of_roundTrip h)
  | ok reply =>
    obtain ⟨u, hidles, rfl⟩ := exists_answer_of_roundTrip h
    exact (hs.idles hidles).answer

end Dated

/-- The date is kept by the parts of operations, and so by whole runs. -/
theorem stable_dated (start : Duration) : Stable (Dated start) where
  tell notice hs := hs.idles (idles_tell _ notice)
  count f hs := hs.idles (idles_count _ f)
  change hnext hs := hs.idles (idles_transition _ hnext)
  close hs := hs.idles (idles_closeLink _)
  sleep span hs := hs.idles (idles_sleep _ span)
  wait span hs := hs.idles (idles_wait _ span)
  settle made hs := hs.idles (idles_settle _ made)
  stop hs := hs.idles (idles_stopHeartbeat _)
  farewell hs := hs.idles (idles_sendClose _)
  opening hstate hs := hs.openLink hstate
  trip _ hs := hs.roundTrip (Prod.eta _).symm

section Commands

variable {outcome : Outcome} {s t : Channel}

/-- A command fails without a reply of its own, or its own reply has just counted as activity. The
number of answers in the history tells the two apart. -/
theorem idle_execute {command : Command} (h : s.execute command = (outcome, t))
    (hlinked : s.Linked) :
    (∃ text recoverable, outcome = .fail text recoverable ∧
      t.world.tally.answers = s.world.tally.answers) ∨
    ∃ reply, outcome = Response.toOutcome reply ∧
      t.world.tally.answers = s.world.tally.answers + 1 ∧ t.idle = .zero := by
  rcases execute_cases command hlinked with ⟨e, -, heq⟩ | ⟨frame, trips, hencode, hcourse⟩
  · cases heq.symm.trans h
    exact .inl ⟨_, _, rfl, rfl⟩
  · rw [h] at hcourse
    have hframe := Frame.ne_nil_of_encode hencode
    rcases hcourse.outcome_cases hframe with
      hfailed | ⟨trip, hmem, reply, hresult, houtcome, rfl, hanswers⟩
    · exact .inl hfailed
    · obtain ⟨-, hruns⟩ := hcourse.reaches_before (P := fun _ => True) trivial hframe trip hmem
      have hround := hruns.roundTrip_eq
      rw [hresult] at hround
      obtain ⟨u, -, hafter⟩ := exists_answer_of_roundTrip hround
      refine .inr ⟨reply, houtcome, hanswers, ?_⟩
      rw [hafter]
      exact u.idle_answer

end Commands

/-- What a manager never takes for activity. -/
structure Overlooks (s : Channel) : Prop where
  /-- A request to connect while it is connected. -/
  connected : s.manager.state = .connected → s.Idles s.connect.2
  /-- A request to connect that is not granted. -/
  refused : s.connect.1 = false → s.Idles s.connect.2
  /-- An attempt to open a connection that fails. -/
  failed : ∀ e t, s.openLink = (.error e, t) → s.Idles t
  /-- Connecting again without success. -/
  lost : ∀ t, s.reconnect = (false, t) → s.Idles t
  /-- A round trip that ends in an error. -/
  unanswered : ∀ frame e t, s.roundTrip frame = (.error e, t) → s.Idles t
  /-- A command that is not answered in time. -/
  timedOut : s.manager.state = .connected → ∀ name frame resends e u,
    s.roundTrip frame = (.error e, u) → e.isTimeout = true →
      s.Idles (s.exchange name frame resends).2
  /-- All that is read before the reply that is waited for. -/
  late : ∀ frame reply t, s.roundTrip frame = (.ok reply, t) → ∃ u, s.Idles u ∧ t = u.answer
  /-- The end of the connection. -/
  ended : s.Idles s.disconnect.2
  /-- A monitor of an earlier epoch. -/
  stale : ∀ epoch, s.manager.epoch ≠ epoch → s.Idles (s.heartbeat epoch).2

/-- A command that is not answered in time is no activity, if it found its connection. Neither what
was sent nor the late replies that were passed over on the way change that. -/
theorem Idles.of_timedOut {s u : Channel} {frame : List UInt8} {e : ChannelError} (name : String)
    (resends : Nat) (hstate : s.manager.state = .connected)
    (h : s.roundTrip frame = (.error e, u)) (htimeout : e.isTimeout = true) :
    s.Idles (s.exchange name frame resends).2 := by
  have hensure : s.ensureLink = (true, s) := if_pos (LinkState.isConnected_iff.2 hstate)
  have htold : s.Idles ((u.count (Stats.recordTimeout u.now)).tell
      (.commandTimedOut name u.manager.config.ioTimeout)) :=
    ((Idles.of_roundTrip h).trans (idles_count _ _)).trans (idles_tell _ _)
  unfold exchange
  rw [hensure]
  dsimp only
  rw [h]
  dsimp only
  rwa [if_pos htimeout]

/-- Every manager overlooks all of these, connected or not. No invariant is needed for that. -/
theorem overlooks (s : Channel) : s.Overlooks where
  connected h := .of_connected h
  refused h := .of_connect (Prod.ext h rfl)
  failed _ _ h := .of_openLink h
  lost _ h := .of_reconnect h
  unanswered _ _ _ h := .of_roundTrip h
  timedOut hstate name _ resends _ _ h htimeout := .of_timedOut name resends hstate h htimeout
  late _ _ _ h := exists_answer_of_roundTrip h
  ended := s.idles_disconnect
  stale _ h := .of_stale h

end Channel

namespace Scenario

variable (sc : Scenario)

/-- At the beginning nothing was opened or answered yet, and the beginning itself is the date. -/
theorem dated_start : sc.start.Dated sc.now where
  activity_eq := by
    have hnothing (kind : Event → Bool) : sc.start.world.last? kind = none := rfl
    have hstart : sc.start.manager.lastActivity = sc.now := rfl
    apply Duration.ext
    rw [hnothing, hnothing, hstart]
    simp only [Option.getD_none, Duration.nanos_max, Nat.max_self]
  activity_le := sc.now.le_refl

/-- Between operations the last activity of a manager is the latest of three moments: its beginning,
the last opening of a connection and the last answer to a command. Requests that are not granted or
not needed, attempts that fail, commands that are not answered in time, late replies, the end of a
connection and monitors of an earlier epoch do not count. No time has passed since the last activity
when a command was answered by its own reply. -/
theorem activity_after (operations : List Operation) :
    let s := sc.after operations
    s.manager.lastActivity = max sc.now
        (max ((s.world.last? Event.isOpening).getD sc.now)
          ((s.world.last? Event.isAnswer).getD sc.now)) ∧
      s.Overlooks ∧
      ∀ command outcome t, s.execute command = (outcome, t) →
        (∃ text recoverable, outcome = .fail text recoverable ∧
          t.world.tally.answers = s.world.tally.answers) ∨
        ∃ reply, outcome = Response.toOutcome reply ∧
          t.world.tally.answers = s.world.tally.answers + 1 ∧ t.idle = .zero := by
  intro s
  have hlinked : s.Linked := sc.linked_after operations
  have hdated : s.Dated sc.now := sc.stable_after (stable_dated sc.now) sc.dated_start operations
  refine ⟨hdated.activity_eq, s.overlooks, ?_⟩
  intro command outcome t hexecute
  exact idle_execute hexecute hlinked

end Scenario

end CommandChannel
