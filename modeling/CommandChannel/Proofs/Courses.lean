import CommandChannel.Proofs.Steps

/-!
# Courses of commands

A command makes a round trip over the connection that it finds or opens, and after a loss another
one over a new connection, as often as resends are allowed. The course of a command lists its round
trips, and each of them is a step of the manager.
-/

namespace CommandChannel

open Relation

/-- The errors that are a loss of the connection: it ended, or what came over it is no proper frame
of a reply. -/
theorem ChannelError.isLoss_iff (e : ChannelError) :
    e.isLoss = true ↔ (∃ reason, e = .lost reason) ∨ (∃ reason, e = .malformed reason) ∨
      ∃ size max, e = .oversized size max := by
  cases e <;> simp [isLoss]

namespace Channel

/-- A round trip with a frame over a connection. -/
structure Trip where
  /-- The number of the connection. -/
  conn : Nat
  /-- The channel when the frame is about to be sent. -/
  before : Channel
  /-- The reply, or what went wrong. -/
  result : Except ChannelError Response
  /-- The channel before anything is made of the result. -/
  after : Channel

namespace Trip

/-- A manager that is connected by the connection made the round trip. -/
structure Runs (frame : List UInt8) (trip : Trip) : Prop where
  connected : trip.before.manager.state = .connected
  conn_eq : trip.before.manager.link.map Link.number = some trip.conn
  roundTrip_eq : trip.before.roundTrip frame = (trip.result, trip.after)

/-- The connection was lost on the round trip: it ended, or the peer sent no proper reply. -/
def IsLost (trip : Trip) : Prop :=
  (∃ reason, trip.result = .error (.lost reason)) ∨
    (∃ reason, trip.result = .error (.malformed reason)) ∨
      ∃ size max, trip.result = .error (.oversized size max)

/-- After the round trip the connection was given up, and a new one was opened. -/
def Renews (trip : Trip) (s : Channel) : Prop :=
  ∃ notice retry t, (trip.after.tell notice).fail.reconnect = (true, t) ∧ s = t.tell retry

/-- The attempt to write the frame, as the connection knows it. -/
def attempt? (trip : Trip) : Option Attempt :=
  (trip.after.world.account trip.conn).attempts.head?

/-- A round trip that ended in an error lost the connection exactly if the error is a loss. -/
theorem isLost_iff {trip : Trip} {e : ChannelError} (h : trip.result = .error e) :
    trip.IsLost ↔ e.isLoss = true := by
  simp [IsLost, h, ChannelError.isLoss_iff]

/-- A round trip that lost the connection ended in an error. -/
theorem IsLost.exists_error {trip : Trip} (h : trip.IsLost) : ∃ e, trip.result = .error e := by
  rcases h with ⟨_, hresult⟩ | ⟨_, hresult⟩ | ⟨_, _, hresult⟩
  all_goals exact ⟨_, hresult⟩

end Trip

/-- How a round trip ends a command, when so many resends are left: its outcome, and the channel
after it. -/
inductive Ending (trip : Trip) : Nat → Outcome → Channel → Prop where
  /-- The peer answered. -/
  | answered {resends : Nat} {reply : Response} (hresult : trip.result = .ok reply) :
      Ending trip resends reply.toOutcome trip.after
  /-- The answer did not come in time, and the connection is kept. -/
  | timedOut {resends : Nat} {e : ChannelError} {text : String} {notice : Notice}
      (hresult : trip.result = .error e) (htimeout : e.isTimeout = true) :
      Ending trip resends (.fail text true)
        ((trip.after.count (Stats.recordTimeout trip.after.now)).tell notice)
  /-- Something else than a loss went wrong, and the connection is given up. -/
  | failed {resends : Nat} {e : ChannelError} {notice : Notice} (hresult : trip.result = .error e)
      (htimeout : e.isTimeout = false) (hloss : e.isLoss = false) :
      Ending trip resends (.fail e.message e.isRecoverable) (trip.after.tell notice).fail
  /-- The connection was lost, and the command may not be sent again. -/
  | lost {e : ChannelError} {notice : Notice} (hresult : trip.result = .error e)
      (hloss : e.isLoss = true) :
      Ending trip 0 (.fail e.message true) (trip.after.tell notice).fail
  /-- The connection was lost, and there is no new one for sending again. -/
  | lostForGood {resends : Nat} {e : ChannelError} {notice : Notice} {t : Channel}
      (hresult : trip.result = .error e) (hloss : e.isLoss = true)
      (hreconnect : (trip.after.tell notice).fail.reconnect = (false, t)) :
      Ending trip (resends + 1) (.fail lostText true) t

/-- The course of a command with a frame: the round trips that it made, in the order of time, and
its outcome. -/
inductive Course (frame : List UInt8) : Nat → Channel → List Trip → Outcome → Channel → Prop where
  /-- There is no connection, and none can be opened. -/
  | unreachable {resends : Nat} {s t : Channel} (hensure : s.ensureLink = (false, t)) :
      Course frame resends s [] (.fail notConnectedText true) t
  /-- The round trip is the last one. -/
  | ended {resends : Nat} {s t : Channel} {trip : Trip} {outcome : Outcome}
      (hensure : s.ensureLink = (true, trip.before)) (htrip : trip.Runs frame)
      (hending : Ending trip resends outcome t) : Course frame resends s [trip] outcome t
  /-- The connection was lost, and the command goes on over a new one. -/
  | resent {resends : Nat} {s t u : Channel} {trip : Trip} {trips : List Trip} {outcome : Outcome}
      (hensure : s.ensureLink = (true, trip.before)) (htrip : trip.Runs frame)
      (hlost : trip.IsLost) (hrenews : trip.Renews u)
      (hrest : Course frame resends u trips outcome t) :
      Course frame (resends + 1) s (trip :: trips) outcome t

section Steps

variable {P : List UInt8 → Prop} {frame : List UInt8} {trip : Trip} {s t : Channel}

/-- What a round trip changes: it is made over the connection of the manager, and it is one attempt
to write its own frame. -/
theorem Trip.Runs.exists_trades (h : trip.Runs frame) (hframe : frame ≠ []) :
    ∃ link trade replies, trip.before.manager.link = some link ∧ link.number = trip.conn ∧
      trade.frame = frame ∧ trip.before.Trades link trade replies trip.result trip.after := by
  obtain ⟨link, hlink, hnumber⟩ := Option.map_eq_some_iff.1 h.conn_eq
  obtain ⟨trade, replies, heq, htrades⟩ := exists_trades_of_roundTrip hlink hframe
  rw [h.roundTrip_eq] at htrades
  exact ⟨link, trade, replies, hlink, hnumber, heq, htrades⟩

/-- A round trip that ends in a reply or a timeout is a step that keeps the connection. -/
theorem Trip.Runs.step (h : trip.Runs frame) (hP : P frame) (hframe : frame ≠ [])
    (hkeeps : ∀ e, trip.result = .error e → e.isTimeout = true) :
    trip.before.Step P trip.after := by
  obtain ⟨link, trade, replies, hlink, -, rfl, htrades⟩ := h.exists_trades hframe
  exact .trades h.connected hlink hP htrades hkeeps

/-- A round trip that fails is a step with which the connection fails. It is not made without that,
so that no channel in between is one that is reached. -/
theorem Trip.Runs.step_fail (h : trip.Runs frame) (hP : P frame) (hframe : frame ≠ [])
    {e : ChannelError} (hresult : trip.result = .error e) (notice : Notice) :
    trip.before.Step P (trip.after.tell notice).fail := by
  obtain ⟨link, trade, replies, hlink, -, rfl, htrades⟩ := h.exists_trades hframe
  rw [hresult] at htrades
  exact .breaks h.connected hlink hP htrades (fails_fail _ notice)

/-- After a loss the manager is in the state of an error, and so not connected. -/
theorem state_fail (s : Channel) : s.fail.manager.state = .error := by
  obtain ⟨_, hmanager⟩ := s.manager_fail
  rw [hmanager]

/-- Connecting again after a loss is a step, whether it succeeds or not. -/
theorem Step.reconnect_fail {done : Bool} (h : s.fail.reconnect = (done, t)) :
    s.fail.Step P t := by
  refine (Step.reconnect ?_ h).1
  rw [state_fail]
  intro hstate
  cases hstate

/-- What ends a command after its round trip is made of steps, together with the round trip
itself. -/
theorem Ending.reaches {resends : Nat} {outcome : Outcome} (h : Ending trip resends outcome t)
    (htrip : trip.Runs frame) (hP : P frame) (hframe : frame ≠ []) : Reaches P trip.before t := by
  cases h with
  | answered hresult =>
    refine .single (htrip.step hP hframe ?_)
    rw [hresult]
    intro e he
    cases he
  | timedOut hresult htimeout =>
    have hstep : trip.before.Step P trip.after := by
      apply htrip.step hP hframe
      rw [hresult]
      rintro _ ⟨⟩
      exact htimeout
    exact ((ReflTransGen.single hstep).tail (.count _ _)).tail (.tell _ _)
  | failed hresult _ _ => exact .single (htrip.step_fail hP hframe hresult _)
  | lost hresult _ => exact .single (htrip.step_fail hP hframe hresult _)
  | lostForGood hresult _ hreconnect =>
    exact (ReflTransGen.single (htrip.step_fail hP hframe hresult _)).tail
      (.reconnect_fail hreconnect)

/-- After a loss a new connection is reached by steps: by the round trip that fails and then by
connecting again. -/
theorem Trip.Renews.reaches (h : trip.Renews s) (hlost : trip.IsLost) (htrip : trip.Runs frame)
    (hP : P frame) (hframe : frame ≠ []) : Reaches P trip.before s := by
  obtain ⟨notice, retry, t, hreconnect, rfl⟩ := h
  obtain ⟨e, hresult⟩ := hlost.exists_error
  exact ((ReflTransGen.single (htrip.step_fail hP hframe hresult notice)).tail
    (.reconnect_fail hreconnect)).tail (.tell t retry)

end Steps

section Reach

variable {P : List UInt8 → Prop} {frame : List UInt8} {resends : Nat} {s t : Channel}
  {trips : List Trip} {outcome : Outcome}

/-- All of a course is made of steps. The induction is on the course, one round trip after the
other. -/
theorem Course.reaches (h : Course frame resends s trips outcome t) (hP : P frame)
    (hframe : frame ≠ []) : Reaches P s t := by
  induction h with
  | unreachable hensure => exact (Reaches.ensureLink hensure).1
  | ended hensure htrip hending =>
    exact (Reaches.ensureLink hensure).1.trans (hending.reaches htrip hP hframe)
  | resent hensure htrip hlost hrenews _ ih =>
    exact ((Reaches.ensureLink hensure).1.trans (hrenews.reaches hlost htrip hP hframe)).trans ih

/-- The channel before every round trip of a course is reached from its beginning, so that all
invariants of steps hold of it. -/
theorem Course.reaches_before (h : Course frame resends s trips outcome t) (hP : P frame)
    (hframe : frame ≠ []) : ∀ trip ∈ trips, Reaches P s trip.before ∧ trip.Runs frame := by
  induction h with
  | unreachable _ => simp
  | ended hensure htrip _ =>
    intro trip hmem
    rw [List.mem_singleton.1 hmem]
    exact ⟨(Reaches.ensureLink hensure).1, htrip⟩
  | resent hensure htrip hlost hrenews _ ih =>
    have hensured := (Reaches.ensureLink (P := P) hensure).1
    intro trip hmem
    rcases List.mem_cons.1 hmem with rfl | hmem
    · exact ⟨hensured, htrip⟩
    · obtain ⟨hreaches, hruns⟩ := ih trip hmem
      exact ⟨(hensured.trans (hrenews.reaches hlost htrip hP hframe)).trans hreaches, hruns⟩

end Reach

section Existence

variable {s u v : Channel} {frame : List UInt8}

/-- A connection that was seen to is there: the manager is connected and holds it. -/
theorem Linked.ensureLink (hs : s.Linked) (h : s.ensureLink = (true, u)) :
    u.manager.state = .connected ∧ ∃ link, u.manager.link = some link := by
  obtain ⟨hreaches, hstate⟩ := Reaches.ensureLink (P := fun _ => True) h
  exact ⟨hstate rfl, hreaches.linked hs (hstate rfl)⟩

/-- The round trip over a connection that was seen to is one that a connected manager makes. The
number of the connection is that of the one it holds. -/
theorem Linked.exists_runs (hs : s.Linked) {result : Except ChannelError Response}
    (hensure : s.ensureLink = (true, u)) (htrip : u.roundTrip frame = (result, v)) :
    ∃ conn, Trip.Runs frame ⟨conn, u, result, v⟩ := by
  obtain ⟨hstate, link, hlink⟩ := hs.ensureLink hensure
  exact ⟨link.number, hstate, by rw [hlink]; rfl, htrip⟩

/-- After a loss nothing is said to be connected, so there is nothing to be held. -/
theorem linked_fail (s : Channel) : s.fail.Linked := by
  intro hstate
  rw [state_fail] at hstate
  cases hstate

/-- Sending a frame with resends runs a course. The induction is on the resends that are left, and
each round follows the cases of the program. -/
theorem exists_course_of_exchange (name : String) (frame : List UInt8) (resends : Nat)
    {s : Channel} (hs : s.Linked) :
    ∃ trips, Course frame resends s trips (s.exchange name frame resends).1
      (s.exchange name frame resends).2 := by
  fun_induction exchange name frame resends s with
  | case1 resends s t hensure => exact ⟨[], .unreachable hensure⟩
  | case2 resends s u hensure reply t hround =>
    obtain ⟨conn, htrip⟩ := hs.exists_runs hensure hround
    exact ⟨[⟨conn, u, _, t⟩], .ended hensure htrip (.answered rfl)⟩
  | case3 resends s u hensure e v hround htimeout =>
    obtain ⟨conn, htrip⟩ := hs.exists_runs hensure hround
    exact ⟨[⟨conn, u, _, v⟩], .ended hensure htrip (.timedOut rfl htimeout)⟩
  | case4 s u hensure e v hround _ hloss _ =>
    obtain ⟨conn, htrip⟩ := hs.exists_runs hensure hround
    exact ⟨[⟨conn, u, _, v⟩], .ended hensure htrip (.lost rfl hloss)⟩
  | case5 s u hensure e v hround _ hloss _ resends t hreconnect =>
    obtain ⟨conn, htrip⟩ := hs.exists_runs hensure hround
    exact ⟨[⟨conn, u, _, v⟩], .ended hensure htrip (.lostForGood rfl hloss hreconnect)⟩
  | case6 s u hensure e v hround _ hloss _ resends t hreconnect ih =>
    obtain ⟨conn, htrip⟩ := hs.exists_runs hensure hround
    have ht : t.Linked :=
      (Step.reconnect_fail (P := fun _ => True) hreconnect).linked (linked_fail _)
    obtain ⟨trips, hrest⟩ := ih ht
    have hlost : Trip.IsLost ⟨conn, u, .error e, v⟩ := (Trip.isLost_iff rfl).2 hloss
    exact ⟨_ :: trips, .resent hensure htrip hlost ⟨_, _, t, hreconnect, rfl⟩ hrest⟩
  | case7 resends s u hensure e v hround htimeout hloss =>
    obtain ⟨conn, htrip⟩ := hs.exists_runs hensure hround
    refine ⟨[⟨conn, u, _, v⟩], .ended hensure htrip (.failed rfl ?_ ?_)⟩
    · simpa using htimeout
    · simpa using hloss

/-- A command without a frame changes nothing. Any other runs a course with its frame. -/
theorem execute_cases (command : Command) (hs : s.Linked) :
    (∃ e, Frame.encode (.command command) = .error e ∧
      s.execute command = (.fail e.message false, s)) ∨
    ∃ frame trips, Frame.encode (.command command) = .ok frame ∧
      Course frame maxResends s trips (s.execute command).1 (s.execute command).2 := by
  unfold execute
  cases hencode : Frame.encode (.command command) with
  | error e => exact .inl ⟨e, rfl, rfl⟩
  | ok frame =>
    obtain ⟨trips, hcourse⟩ := exists_course_of_exchange command.name frame maxResends hs
    exact .inr ⟨frame, trips, rfl, hcourse⟩

end Existence

section Tally

variable {frame : List UInt8} {trip : Trip} {s t : Channel}

/-- Connecting again looks the peer up as often as it makes attempts, within the budget, and has no
other effect on the tally. -/
theorem exists_lookUp_of_reconnect {done : Bool} (h : s.reconnect = (done, t)) :
    ∃ count, t.world.tally = s.world.tally.lookUp count ∧
      count ≤ s.manager.config.backoff.maxAttempts := by
  rcases s.reconnect_cases with ⟨count, link, u, hu, hopens, hwithin⟩ | ⟨count, u, hu, hgives⟩
  · obtain ⟨w, hseeks, hmakes⟩ := hopens.world
    rw [hu] at h
    cases h
    refine ⟨count, ?_, by omega⟩
    rw [hmakes.tally_eq, hseeks.tally_eq, tally_closeLink]
  · have hwithin := hgives.within
    rw [manager_closeLink] at hwithin
    simp only at hwithin
    rw [hu] at h
    cases h
    refine ⟨count, ?_, by omega⟩
    rw [hgives.world.tally_eq, tally_closeLink]

/-- Seeing to a connection looks the peer up only where there is none, and within the budget
then. -/
theorem exists_lookUp_of_ensureLink {done : Bool} (h : s.ensureLink = (done, t)) :
    ∃ count, t.world.tally = s.world.tally.lookUp count ∧
      count ≤ (if s.manager.state = .connected then 0
        else s.manager.config.backoff.maxAttempts) := by
  rcases ensureLink_cases h with ⟨hstate, -, rfl⟩ | ⟨hstate, hreconnect⟩
  · exact ⟨0, rfl, Nat.zero_le _⟩
  · rw [if_neg hstate]
    exact exists_lookUp_of_reconnect hreconnect

/-- A round trip offers its frame once, and answers its command if it ends in a reply. -/
theorem Trip.Runs.tally_eq (h : trip.Runs frame) (hframe : frame ≠ []) :
    trip.after.world.tally =
      (trip.before.world.tally.offer trip.conn frame).conclude trip.result := by
  obtain ⟨link, trade, replies, -, hnumber, rfl, htrades⟩ := h.exists_trades hframe
  rw [htrades.tally_eq, hnumber]

/-- The configuration of a manager that lost its connection is the same. -/
theorem config_fail (s : Channel) : s.fail.manager.config = s.manager.config := by
  obtain ⟨_, hmanager⟩ := s.manager_fail
  rw [hmanager]

/-- What ends a command offers no frame, and looks the peer up only after a loss. Without a resend
left it does not look it up at all. -/
theorem Ending.exists_lookUp {resends : Nat} {outcome : Outcome}
    (h : Ending trip resends outcome t) :
    ∃ count, t.world.tally = trip.after.world.tally.lookUp count ∧
      count ≤ resends * trip.after.manager.config.backoff.maxAttempts := by
  cases h with
  | answered _ => exact ⟨0, rfl, Nat.zero_le _⟩
  | timedOut _ _ => exact ⟨0, rfl, Nat.zero_le _⟩
  | failed _ _ _ => exact ⟨0, tally_fail _, Nat.zero_le _⟩
  | lost _ _ => exact ⟨0, tally_fail _, Nat.zero_le _⟩
  | lostForGood _ _ hreconnect =>
    obtain ⟨count, htally, hwithin⟩ := exists_lookUp_of_reconnect hreconnect
    rw [config_fail, manager_tell] at hwithin
    refine ⟨count, by rw [htally, tally_fail]; rfl, Nat.le_trans hwithin ?_⟩
    exact Nat.le_mul_of_pos_left _ (Nat.succ_pos _)

/-- A new connection after a loss is looked for within the budget. -/
theorem Trip.Renews.exists_lookUp (h : trip.Renews s) :
    ∃ count, s.world.tally = trip.after.world.tally.lookUp count ∧
      count ≤ trip.after.manager.config.backoff.maxAttempts := by
  obtain ⟨notice, retry, t, hreconnect, rfl⟩ := h
  obtain ⟨count, htally, hwithin⟩ := exists_lookUp_of_reconnect hreconnect
  rw [config_fail, manager_tell] at hwithin
  exact ⟨count, by rw [world_tell, World.tally_tell, htally, tally_fail]; rfl, hwithin⟩

end Tally

end Channel

end CommandChannel
