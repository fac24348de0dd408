import CommandChannel.Proofs.Histories
import CommandChannel.Proofs.Retries

/-!
# Moves of a manager

Steps tell what holds between operations. Within an operation a manager makes moves, the smallest
things that can be told apart, and each of them only in the states in which it may be made: it goes
over to a state that may follow, it looks for a connection only while one is being made, and it
writes and reads only while it is connected. What all moves keep holds at every moment of a run.
-/

namespace CommandChannel

open Relation

/-- The kinds of moves. -/
inductive Act where
  /-- Something is told to those who watch. -/
  | tell
  /-- An entry is made in the statistics. -/
  | count (entry : Stats.Step)
  /-- The moment of an error is noted. -/
  | fault
  /-- The present moment becomes that of the last activity. -/
  | touch
  /-- A reply is recorded as the answer of a command. -/
  | answer
  /-- The state changes to one that may follow. -/
  | change
  /-- The connection is given up. -/
  | close
  /-- Time passes before an attempt. -/
  | sleep
  /-- The peer is looked up and its addresses are tried. -/
  | dial
  /-- The manager takes over a connection. -/
  | take
  /-- The manager sees to its monitor. -/
  | monitor
  /-- The number of failed attempts is noted. -/
  | settle
  /-- A frame is offered to the connection. -/
  | send
  /-- A reply is read from the connection. -/
  | read
  /-- The number of replies that are owed is set. -/
  | owe
  /-- The monitor is told to end, and the next epoch begins. -/
  | stop
  /-- The closing frame is offered to the connection. -/
  | farewell
  /-- Time passes while nothing is asked of the manager. -/
  | wait

/-- The move neither counts a timeout nor begins a new epoch. -/
def Act.isOrdinary : Act → Bool
  | .count .timeout | .stop => false
  | _ => true

/-- A move that is ordinary is none of the others, which are counting a timeout and beginning a new
epoch. -/
theorem Act.ne_of_isOrdinary {act other : Act} (hother : other.isOrdinary = false)
    (h : act.isOrdinary = true) : act ≠ other := by
  rintro rfl
  rw [h] at hother
  cases hother

/-- From a state of rest without a connection one may be made, on request or again. -/
theorem LinkState.mayBecome_of_rest {state : LinkState} (hrest : state.isConnecting = false)
    (hstate : state ≠ .connected) :
    state.mayBecome .connecting = true ∧ state.mayBecome .reconnecting = true := by
  cases state with
  | connecting => cases hrest
  | reconnecting => cases hrest
  | connected => exact absurd rfl hstate
  | disconnected => exact ⟨rfl, rfl⟩
  | error => exact ⟨rfl, rfl⟩

/-- While a connection is being made it may succeed or fail. -/
theorem LinkState.mayBecome_of_connecting {state : LinkState} (h : state.isConnecting = true) :
    state.mayBecome .connected = true ∧ state.mayBecome .error = true := by
  cases state with
  | connecting => exact ⟨rfl, rfl⟩
  | reconnecting => exact ⟨rfl, rfl⟩
  | disconnected => cases h
  | connected => cases h
  | error => cases h

/-- The connection may be ended by request from any state, also where there is none. -/
theorem LinkState.mayBecome_disconnected (state : LinkState) :
    state.mayBecome .disconnected = true := by
  cases state <;> rfl

namespace Channel

/-- The manager has the connection, which owes no replies yet. -/
def take (link : Link) (s : Channel) : Channel :=
  { s with manager := { s.manager with link := some link, attempts := 0, owedReplies := 0 } }

/-- The manager keeps the number of failed attempts. -/
def settle (made : Nat) (s : Channel) : Channel :=
  { s with manager := { s.manager with attempts := made } }

/-- A move of a manager, and its kind. -/
inductive Move (s : Channel) : Act → Channel → Prop
  | tell (notice : Notice) : s.Move .tell (s.tell notice)
  | count (entry : Stats.Step) :
      s.Move (.count entry) (s.count fun stats => (stats.step s.now entry).2)
  | fault : s.Move .fault (s.count fun stats => { stats with lastError := some s.now })
  | touch : s.Move .touch s.touch
  | answer : s.Move .answer (s.record .answered)
  | change {next : LinkState} (hmay : s.manager.state.mayBecome next = true) :
      s.Move .change (s.transition next)
  | close : s.Move .close s.closeLink
  | sleep (span : Duration) : s.Move .sleep { s with world := s.world.sleep span }
  | dial (hstate : s.manager.state.isConnecting = true) : s.Move .dial s.dial.2
  | take (link : Link) (hstate : s.manager.state.isConnecting = true) : s.Move .take (s.take link)
  | monitor (hstate : s.manager.state = .connected) : s.Move .monitor s.ensureHeartbeat
  | settle (made : Nat) (hstate : s.manager.state = .reconnecting) :
      s.Move .settle (s.settle made)
  | send (frame : List UInt8) (hstate : s.manager.state = .connected) :
      s.Move .send (s.sendFrame frame).2
  | read (hstate : s.manager.state = .connected) : s.Move .read s.readReply.2
  | owe (late : Nat) (hstate : s.manager.state = .connected) : s.Move .owe (s.owe late)
  | stop : s.Move .stop s.stopHeartbeat.2
  | farewell : s.Move .farewell s.sendClose
  | wait (span : Duration) : s.Move .wait { s with world := s.world.wait span }

/-- Any number of moves of kinds among `P`. -/
def Moves (P : Act → Prop) : Channel → Channel → Prop :=
  ReflTransGen fun s t => ∃ act, P act ∧ s.Move act t

section Moves

variable {P : Act → Prop} {s t u : Channel}

/-- No moves lead from a channel to itself, whatever kinds are allowed. -/
theorem Moves.refl : s.Moves P s := ReflTransGen.refl

/-- Moves may be followed by other moves of kinds that are allowed. -/
theorem Moves.trans (hst : s.Moves P t) (htu : t.Moves P u) : s.Moves P u :=
  ReflTransGen.trans hst htu

/-- One more move may follow, if it is of a kind that is allowed. -/
theorem Moves.move {act : Act} (h : s.Moves P t) (hact : P act) (hmove : t.Move act u) :
    s.Moves P u :=
  ReflTransGen.tail h ⟨act, hact, hmove⟩

/-- What every move keeps holds after any number of moves, by induction on these. The invariants of
the theory that are about single moves are carried to runs by it. -/
theorem Moves.keeps {I : Channel → Prop}
    (hkeeps : ∀ {u v : Channel} {act : Act}, P act → u.Move act v → I u → I v)
    (h : s.Moves P t) (hs : I s) : I t := by
  induction h with
  | refl => exact hs
  | tail _ hmove ih =>
    obtain ⟨act, hact, hmove⟩ := hmove
    exact hkeeps hact hmove ih

end Moves

section States

variable (s : Channel)

/-- Looking up the peer and connecting to it leaves the manager as it is. What comes of it is noted
by its callers. -/
@[simp] theorem manager_dial : s.dial.2.manager = s.manager := by
  unfold dial
  simp only
  split <;> rfl

/-- Reading a reply changes no more of the manager than the connection and what is counted. -/
theorem manager_readReply :
    ∃ link stats, s.readReply.2.manager = { s.manager with link, stats } := by
  unfold readReply
  split
  · exact ⟨_, _, rfl⟩
  · split <;> exact ⟨_, _, rfl⟩

/-- Sending a frame changes no more of the manager than the connection and what is counted. -/
theorem manager_sendFrame (frame : List UInt8) :
    ∃ link owedReplies stats,
      (s.sendFrame frame).2.manager = { s.manager with link, owedReplies, stats } := by
  unfold sendFrame
  split
  · exact ⟨_, _, _, rfl⟩
  · split <;> exact ⟨_, _, _, rfl⟩

/-- Offering the closing frame changes no more of the manager than the connection, and counts
nothing. -/
theorem manager_sendClose : ∃ link, s.sendClose.manager = { s.manager with link } := by
  rcases s.sendClose_cases with ⟨hsame, -⟩ | ⟨_, link, _, _, -, -, hsent, -⟩
  · exact ⟨s.manager.link, hsame⟩
  · exact ⟨some link, hsent⟩

/-- Reading a reply does not change the state, also if it fails: the connection fails only after
that. -/
@[simp] theorem state_readReply : s.readReply.2.manager.state = s.manager.state := by
  obtain ⟨_, _, hmanager⟩ := s.manager_readReply
  rw [hmanager]

/-- Sending a frame does not change the state, also if it fails: the connection fails only after
that. -/
@[simp] theorem state_sendFrame (frame : List UInt8) :
    (s.sendFrame frame).2.manager.state = s.manager.state := by
  obtain ⟨_, _, _, hmanager⟩ := s.manager_sendFrame frame
  rw [hmanager]

/-- A manager that was given a new connection is connected, whether its monitor starts or not. -/
theorem state_establish (link : Link) : (s.establish link).manager.state = .connected := by
  obtain ⟨_, _, hadopted⟩ := s.manager_adopt link
  obtain ⟨_, _, hmanager, -⟩ := manager_ensureHeartbeat (s.adopt link)
  rw [establish_eq, hmanager, hadopted]

/-- An attempt to open a connection leaves the manager connected, or its state as it was. -/
theorem state_openLink :
    (∃ e t, s.openLink = (.error e, t) ∧ t.manager.state = s.manager.state) ∨
      ∃ t, s.openLink = (.ok (), t) ∧ t.manager.state = .connected := by
  have hdialed : s.closeLink.dial.2.manager.state = s.manager.state := by simp
  unfold openLink
  rcases hdial : s.closeLink.dial with ⟨e | link, t⟩ <;> rw [hdial] at hdialed
  · exact .inl ⟨e, t, rfl, hdialed⟩
  · exact .inr ⟨_, rfl, state_establish t link⟩

/-- An attempt to connect again that fails leaves the state as it was, which is that of connecting
again. -/
theorem state_attempt {s t : Channel} (h : s.attempt = (false, t)) :
    t.manager.state = s.manager.state := by
  unfold attempt at h
  rcases (s.count Stats.recordReconnect).state_openLink with ⟨e, u, hopen, hsame⟩ | ⟨u, hopen, -⟩
  · rw [hopen] at h
    cases h
    exact hsame
  · rw [hopen] at h
    cases h

/-- What pauses and attempts to connect again keep holds when a manager stops to make them. Unless
the last attempt succeeded, the state is as it was. The induction is on the budget that is left. -/
theorem run_attempt_keeps {I : Channel → Prop} {s t : Channel} {done : Bool} {made : Nat}
    (policy : Backoff)
    (hpause : ∀ {u : Channel} (number : Nat) (span : Duration), I u → I (u.pause number span))
    (hattempt : ∀ {u v : Channel} {done : Bool}, u.manager.state = .reconnecting →
      u.attempt = (done, v) → I u → I v)
    (hstate : s.manager.state = .reconnecting) (hs : I s)
    (h : policy.run pause attempt s.manager.attempts s = (done, made, t)) :
    I t ∧ (done = false → t.manager.state = .reconnecting) := by
  -- An attempt that fails leaves the state as it was, so that another one may follow it.
  have hfails (number : Nat) (u v : Channel) (_ : policy.mayRetry number = true)
      (hu : I u ∧ u.manager.state = .reconnecting)
      (hfailed : (u.pause (number + 1) (policy.delay (number + 1))).attempt = (false, v)) :
      I v ∧ v.manager.state = .reconnecting :=
    ⟨hattempt (u := u.pause _ _) hu.2 hfailed (hpause _ _ hu.1),
      (state_attempt hfailed).trans hu.2⟩
  rcases Backoff.run_cases policy pause attempt _ hfails ⟨hs, hstate⟩ with
    ⟨before, u, v, -, hu, hsucceeded, hrun⟩ | ⟨all, u, -, hu, hrun⟩
  · rw [hrun] at h
    cases h
    exact ⟨hattempt (u := u.pause _ _) hu.2 hsucceeded (hpause _ _ hu.1),
      fun hdone => by cases hdone⟩
  · rw [hrun] at h
    cases h
    exact ⟨hu.1, fun _ => hu.2⟩

end States

section Changes

variable {s t : Channel} {act : Act}

/-- Only a change of the state changes it, and what is seen of it. There is one case for each kind
of move. -/
theorem Move.state_eq (h : s.Move act t) (hchange : act ≠ .change) :
    t.manager.state = s.manager.state ∧ t.manager.published = s.manager.published := by
  cases h with
  | change _ => exact absurd rfl hchange
  | tell _ | count _ | fault | touch | answer | sleep _ | take _ _ | settle _ _ | owe _ _
  | wait _ =>
    exact ⟨rfl, rfl⟩
  | close => simp
  | dial _ => simp
  | monitor _ =>
    obtain ⟨_, _, hmanager, -⟩ := s.manager_ensureHeartbeat
    rw [hmanager]
    exact ⟨rfl, rfl⟩
  | send frame _ =>
    obtain ⟨_, _, _, hmanager⟩ := s.manager_sendFrame frame
    rw [hmanager]
    exact ⟨rfl, rfl⟩
  | read _ =>
    obtain ⟨_, _, hmanager⟩ := s.manager_readReply
    rw [hmanager]
    exact ⟨rfl, rfl⟩
  | stop =>
    rw [s.stopHeartbeat_eq.1]
    exact ⟨rfl, rfl⟩
  | farewell =>
    obtain ⟨_, hmanager⟩ := s.manager_sendClose
    rw [hmanager]
    exact ⟨rfl, rfl⟩

/-- All other moves add to the history only what may happen in the state in which they are made. -/
theorem Move.adds (h : s.Move act t) (hchange : act ≠ .change) (hclose : act ≠ .close) :
    s.Adds t := by
  have hrecords {event : Event} (hevent : event.IsSteady s.manager.state) :
      s.world.Grows (Event.IsSteady s.manager.state) (s.world.record event) :=
    World.Grows.record (.refl _) hevent
  cases h with
  | change _ => exact absurd rfl hchange
  | close => exact absurd rfl hclose
  | count _ | fault | touch | take _ _ | settle _ _ | owe _ _ | wait _ =>
    exact World.Grows.of_history_eq rfl
  | tell _ => exact hrecords trivial
  | answer => exact hrecords trivial
  | sleep span =>
    have hwaited : s.world.Grows (Event.IsSteady s.manager.state) (s.world.wait span) :=
      .of_history_eq rfl
    exact hwaited.record trivial
  | dial _ => exact s.dial_world.1
  | monitor _ => exact s.ensureHeartbeat_world.1
  | send frame hstate => exact (s.sendFrame_world frame hstate).1
  | read _ => exact s.readReply_world.1
  | stop => exact s.stopHeartbeat_world.1
  | farewell => exact s.sendClose_world.1

end Changes

section Functions

variable {P : Act → Prop} {s t : Channel} (hP : ∀ act : Act, act.isOrdinary = true → P act)
include hP

/-- A failure is made of moves: the connection is given up, this is noted, and the state changes. -/
theorem Moves.fail (hmay : s.manager.state.mayBecome .error = true) : s.Moves P s.fail := by
  have hclosed : s.Moves P s.closeLink := Moves.refl.move (hP _ rfl) .close
  have hcounted := hclosed.move (hP _ rfl) .fault
  refine hcounted.move (hP _ rfl) (.change ?_)
  simpa using hmay

/-- Taking over a new connection is made of moves, while one is being made. -/
theorem Moves.establish (link : Link) (hstate : s.manager.state.isConnecting = true) :
    s.Moves P (s.establish link) := by
  rw [establish_eq]
  have htold : s.Moves P (s.tell (.connected link.peerAddr)) := Moves.refl.move (hP _ rfl) (.tell _)
  have htaken := htold.move (hP _ rfl) (.take link hstate)
  have hcounted := htaken.move (hP _ rfl) (.count .connect)
  have hchanged := hcounted.move (hP _ rfl) (.change (LinkState.mayBecome_of_connecting hstate).1)
  have htouched := hchanged.move (hP _ rfl) .touch
  refine htouched.move (hP _ rfl) (.monitor ?_)
  simp

/-- An attempt to open a connection is made of moves, while one is being made. -/
theorem Moves.openLink (hstate : s.manager.state.isConnecting = true) :
    s.Moves P s.openLink.2 := by
  have hclosed : s.Moves P s.closeLink := Moves.refl.move (hP _ rfl) .close
  have hdialing : s.closeLink.manager.state.isConnecting = true := by simpa using hstate
  have hdialed := hclosed.move (hP _ rfl) (.dial hdialing)
  have hmanager := s.closeLink.manager_dial
  unfold Channel.openLink
  rcases hdial : s.closeLink.dial with ⟨e | link, t⟩ <;> rw [hdial] at hdialed hmanager
  · exact hdialed
  · exact hdialed.trans (.establish hP link (by rwa [hmanager]))

/-- Connecting on request is made of moves, if no connection is being made. -/
theorem Moves.connect (hrest : s.manager.state.isConnecting = false) :
    s.Moves P s.connect.2 := by
  unfold Channel.connect
  by_cases hstate : s.manager.state = .connected
  · rw [if_pos (LinkState.isConnected_iff.2 hstate)]
    exact Moves.refl.move (hP _ rfl) (.tell _)
  · rw [if_neg (fun h => hstate (LinkState.isConnected_iff.1 h))]
    have hchanged : s.Moves P (s.transition .connecting) :=
      Moves.refl.move (hP _ rfl) (.change (LinkState.mayBecome_of_rest hrest hstate).1)
    have hconnecting : (s.transition .connecting).manager.state.isConnecting = true := by
      rw [manager_transition]
      rfl
    have hopened := hchanged.trans (.openLink hP hconnecting)
    rcases (s.transition .connecting).state_openLink with ⟨e, t, hopen, hsame⟩ | ⟨t, hopen, -⟩
    · rw [hopen] at hopened ⊢
      have htold := hopened.move (hP _ rfl) (.tell (.connectFailed t.manager.config.endpoint e))
      have hcounted := htold.move (hP _ rfl) (.count .failure)
      refine hcounted.trans (.fail hP ?_)
      rw [manager_count, manager_tell]
      exact hsame ▸ (LinkState.mayBecome_of_connecting hconnecting).2
    · rw [hopen] at hopened ⊢
      exact hopened

/-- An attempt to connect again is made of moves, whether it succeeds or not. -/
theorem Moves.attempt (hstate : s.manager.state = .reconnecting) {done : Bool}
    (h : s.attempt = (done, t)) : s.Moves P t := by
  have hcounted : s.Moves P (s.count Stats.recordReconnect) :=
    Moves.refl.move (hP _ rfl) (.count .reconnect)
  have hopened := hcounted.trans (.openLink hP (by rw [manager_count, hstate]; rfl))
  unfold Channel.attempt at h
  rcases hopen : (s.count Stats.recordReconnect).openLink with ⟨e | _, u⟩ <;>
    rw [hopen] at h hopened <;> cases h
  · have htold := hopened.move (hP _ rfl) (.tell (.reconnectFailed e))
    exact htold.move (hP _ rfl) (.count .failure)
  · exact hopened

/-- Connecting again is made of moves, if there is no connection and none is being made. -/
theorem Moves.reconnect (hrest : s.manager.state.isConnecting = false)
    (hstate : s.manager.state ≠ .connected) : s.Moves P s.reconnect.2 := by
  have hclosed : s.Moves P s.closeLink := Moves.refl.move (hP _ rfl) .close
  have hchanged : s.Moves P (s.closeLink.transition .reconnecting) := by
    refine hclosed.move (hP _ rfl) (.change ?_)
    rw [manager_closeLink]
    exact (LinkState.mayBecome_of_rest hrest hstate).2
  have hreconnecting : (s.closeLink.transition .reconnecting).manager.state = .reconnecting := by
    rw [manager_transition]
  unfold Channel.reconnect
  dsimp only
  generalize s.closeLink.transition .reconnecting = start at hchanged hreconnecting
  rcases hrun : start.manager.config.backoff.run pause Channel.attempt start.manager.attempts start
    with ⟨done, made, t⟩
  obtain ⟨hmoves, hsame⟩ := run_attempt_keeps _
    (fun _ span hu => (hu.move (hP _ rfl) (.tell _)).move (hP _ rfl) (.sleep span))
    (fun hstate hattempt hu => hu.trans (.attempt hP hstate hattempt)) hreconnecting Moves.refl hrun
  cases done with
  | true => exact hchanged.trans hmoves
  | false =>
    have htold := (hchanged.trans hmoves).move (hP _ rfl)
      (.tell (.gaveUp start.manager.config.backoff.maxAttempts))
    have hsettled := htold.move (hP _ rfl) (.settle made (hsame rfl))
    refine hsettled.move (hP _ rfl) (.change ?_)
    change t.manager.state.mayBecome .error = true
    rw [hsame rfl]
    rfl

/-- Seeing to a connection is made of moves: of none if there is one, or else of those of connecting
again. -/
theorem Moves.ensureLink (hrest : s.manager.state.isConnecting = false) {done : Bool}
    (h : s.ensureLink = (done, t)) : s.Moves P t := by
  rcases ensureLink_cases h with ⟨-, -, rfl⟩ | ⟨hstate, hreconnect⟩
  · exact .refl
  · have hmoves := Moves.reconnect hP hrest hstate
    rwa [hreconnect] at hmoves

/-- Reading replies is made of moves that leave the manager connected. The induction is on the
number of late ones. -/
theorem Moves.awaitReply (late : Nat) (hstate : s.manager.state = .connected) :
    s.Moves P (awaitReply late s).2 ∧ (awaitReply late s).2.manager.state = .connected := by
  induction late generalizing s with
  | zero =>
    have hmoves : s.Moves P s.readReply.2 := Moves.refl.move (hP _ rfl) (.read hstate)
    have hconnected := s.state_readReply.trans hstate
    unfold Channel.awaitReply
    rcases hread : s.readReply with ⟨e | reply, t⟩ <;> rw [hread] at hmoves hconnected
    · exact ⟨hmoves, hconnected⟩
    · have howed := hmoves.move (hP _ rfl) (.owe 0 hconnected)
      have htouched := howed.move (hP _ rfl) .touch
      exact ⟨htouched.move (hP _ rfl) .answer, hconnected⟩
  | succ late ih =>
    have hmoves : s.Moves P s.readReply.2 := Moves.refl.move (hP _ rfl) (.read hstate)
    have hconnected := s.state_readReply.trans hstate
    unfold Channel.awaitReply
    rcases hread : s.readReply with ⟨e | reply, t⟩ <;> rw [hread] at hmoves hconnected
    · exact ⟨hmoves, hconnected⟩
    · have howed := hmoves.move (hP _ rfl) (.owe (late + 1) hconnected)
      have htold := howed.move (hP _ rfl) (.tell (.lateReply (late + 1)))
      obtain ⟨hrest, hlater⟩ := ih (s := (t.owe (late + 1)).tell (.lateReply (late + 1))) hconnected
      exact ⟨htold.trans hrest, hlater⟩

/-- A round trip is made of moves that leave the manager connected, however it ends. -/
theorem Moves.roundTrip (frame : List UInt8) (hstate : s.manager.state = .connected) :
    s.Moves P (s.roundTrip frame).2 ∧ (s.roundTrip frame).2.manager.state = .connected := by
  have hmoves : s.Moves P (s.sendFrame frame).2 := Moves.refl.move (hP _ rfl) (.send frame hstate)
  have hconnected := (s.state_sendFrame frame).trans hstate
  unfold Channel.roundTrip
  rcases hsend : s.sendFrame frame with ⟨e | _, t⟩ <;> rw [hsend] at hmoves hconnected
  · exact ⟨hmoves, hconnected⟩
  · obtain ⟨hrest, hlater⟩ := Moves.awaitReply hP (t.manager.owedReplies - 1) hconnected
    exact ⟨hmoves.trans hrest, hlater⟩

/-- Ending the connection on request is made of moves, the first of which begins a new epoch. -/
theorem Moves.disconnect (hstop : P .stop) : s.Moves P s.disconnect.2 := by
  have hstopped : s.Moves P s.stopHeartbeat.2 := Moves.refl.move hstop .stop
  have hsent := hstopped.move (hP _ rfl) .farewell
  have hclosed := hsent.move (hP _ rfl) .close
  unfold Channel.disconnect
  rcases hstopping : s.stopHeartbeat with ⟨handle, u⟩
  rw [hstopping] at hclosed
  dsimp only at hclosed ⊢
  split
  · have hcounted := hclosed.move (hP _ rfl) (.count .disconnect)
    have htold := hcounted.move (hP _ rfl)
      (.tell (.disconnected u.sendClose.closeLink.manager.config.endpoint))
    exact htold.move (hP _ rfl) (.change (LinkState.mayBecome_disconnected _))
  · exact hclosed.move (hP _ rfl) (.change (LinkState.mayBecome_disconnected _))

end Functions

section Commands

variable {P : Act → Prop} {frame : List UInt8} {trip : Trip} {resends : Nat} {s t : Channel}
  {trips : List Trip} {outcome : Outcome} (hP : ∀ act : Act, act.isOrdinary = true → P act)
include hP

/-- A round trip of a course is made of moves that leave the manager connected. -/
theorem Trip.Runs.moves (h : trip.Runs frame) :
    trip.before.Moves P trip.after ∧ trip.after.manager.state = .connected := by
  have hround := Moves.roundTrip hP frame h.connected
  rwa [h.roundTrip_eq] at hround

/-- Giving up a connection that is in use is made of moves, with what is told of it before. -/
theorem Moves.tell_fail (hstate : s.manager.state = .connected) (notice : Notice) :
    s.Moves P (s.tell notice).fail := by
  have htold : s.Moves P (s.tell notice) := Moves.refl.move (hP _ rfl) (.tell notice)
  refine htold.trans (.fail hP ?_)
  rw [manager_tell, hstate]
  rfl

/-- Connecting again after a failure is made of moves, as the failure left no connection. -/
theorem Moves.reconnect_fail {done : Bool} (h : s.fail.reconnect = (done, t)) :
    s.fail.Moves P t := by
  have hstate := s.state_fail
  have hmoves : s.fail.Moves P s.fail.reconnect.2 := by
    apply Moves.reconnect hP
    · rw [hstate]
      rfl
    · rw [hstate]
      intro hconnected
      cases hconnected
  rwa [h] at hmoves

/-- After a loss a new connection is opened by moves: those of giving up the old one and of
connecting again. -/
theorem Trip.Renews.moves (h : trip.Renews s) (hstate : trip.after.manager.state = .connected) :
    trip.after.Moves P s := by
  obtain ⟨notice, retry, t, hreconnect, rfl⟩ := h
  have hlost := Moves.tell_fail hP hstate notice
  exact (hlost.trans (.reconnect_fail hP hreconnect)).move (hP _ rfl) (.tell retry)

/-- What ends a command after its round trip is made of moves, one of which counts a timeout if
the time was up. -/
theorem Ending.moves (h : Ending trip resends outcome t)
    (hstate : trip.after.manager.state = .connected)
    (htime : ∀ e, trip.result = .error e → e.isTimeout = true → P (.count .timeout)) :
    trip.after.Moves P t := by
  cases h with
  | answered _ => exact .refl
  | timedOut hresult htimeout =>
    have hcounted : trip.after.Moves P (trip.after.count (Stats.recordTimeout trip.after.now)) :=
      Moves.refl.move (htime _ hresult htimeout) (.count .timeout)
    exact hcounted.move (hP _ rfl) (.tell _)
  | failed _ _ _ => exact .tell_fail hP hstate _
  | lost _ _ => exact .tell_fail hP hstate _
  | lostForGood _ _ hreconnect =>
    exact (Moves.tell_fail hP hstate _).trans (.reconnect_fail hP hreconnect)

/-- The channel before every round trip of a course is reached by moves, so that what they keep
holds there. -/
theorem Course.moves_before (h : Course frame resends s trips outcome t)
    (hrest : s.manager.state.isConnecting = false) : ∀ trip ∈ trips, s.Moves P trip.before := by
  -- Along the course no connection is being made when the next one is seen to: a manager whose
  -- connection was renewed is connected.
  induction h with
  | unreachable _ => simp
  | ended hensure _ _ =>
    intro trip hmem
    rw [List.mem_singleton.1 hmem]
    exact .ensureLink hP hrest hensure
  | resent hensure htrip _ hrenews _ ih =>
    have hensured := Moves.ensureLink hP hrest hensure
    obtain ⟨hround, hstate⟩ := htrip.moves hP
    intro trip hmem
    rcases List.mem_cons.1 hmem with rfl | hmem
    · exact hensured
    · refine ((hensured.trans hround).trans (hrenews.moves hP hstate)).trans (ih ?_ trip hmem)
      rw [hrenews.connected]
      rfl

/-- A course is made of moves, one of which counts a timeout if the time was up on a round trip. -/
theorem Course.moves (h : Course frame resends s trips outcome t)
    (hrest : s.manager.state.isConnecting = false)
    (htime : ∀ trip ∈ trips, ∀ e, trip.result = .error e → e.isTimeout = true →
      P (.count .timeout)) : s.Moves P t := by
  induction h with
  | unreachable hensure => exact .ensureLink hP hrest hensure
  | ended hensure htrip hending =>
    obtain ⟨hround, hstate⟩ := htrip.moves hP
    exact ((Moves.ensureLink hP hrest hensure).trans hround).trans
      (hending.moves hP hstate (htime _ (List.mem_singleton_self _)))
  | resent hensure htrip _ hrenews _ ih =>
    obtain ⟨hround, hstate⟩ := htrip.moves hP
    refine (((Moves.ensureLink hP hrest hensure).trans hround).trans
      (hrenews.moves hP hstate)).trans (ih ?_ ?_)
    · rw [hrenews.connected]
      rfl
    · intro trip hmem
      exact htime trip (List.mem_cons_of_mem _ hmem)

end Commands

section Runs

variable {P : Act → Prop} {s : Channel}

/-- Between operations no connection is being made. So every operation may begin to make one. -/
theorem Consistent.isConnecting_eq (h : s.Consistent) : s.manager.state.isConnecting = false := by
  rcases h.settled.state_cases with hstate | hstate | hstate <;> rw [hstate] <;> rfl

/-- A command is made of moves, none of which begins a new epoch. -/
theorem Moves.execute (hP : ∀ act : Act, act ≠ .stop → P act) (hs : s.Linked)
    (hconsistent : s.Consistent) (command : Command) : s.Moves P (s.execute command).2 := by
  rcases execute_cases command hs with ⟨e, -, heq⟩ | ⟨frame, trips, -, hcourse⟩
  · rw [heq]
    exact .refl
  · refine hcourse.moves (fun act hact => hP act (Act.ne_of_isOrdinary rfl hact))
      hconsistent.isConnecting_eq ?_
    intro _ _ _ _ _
    exact hP _ (by simp)

/-- What a monitor asks for is made of moves, none of which begins a new epoch. -/
theorem Moves.heartbeat (hP : ∀ act : Act, act ≠ .stop → P act) (hs : s.Linked)
    (hconsistent : s.Consistent) (epoch : Nat) : s.Moves P (s.heartbeat epoch).2 := by
  unfold Channel.heartbeat
  split
  · exact .execute hP hs hconsistent .ping
  · exact Moves.refl.move (hP _ (by simp)) (.tell _)

/-- An operation is made of moves. Only the request to end the connection begins a new epoch. -/
theorem Moves.perform (hP : ∀ act : Act, act ≠ .stop → P act) (hs : s.Linked)
    (hconsistent : s.Consistent) {operation : Operation}
    (hstop : operation = .disconnect → P .stop) :
    s.Moves P (s.perform operation) := by
  have hordinary (act : Act) (hact : act.isOrdinary = true) : P act :=
    hP act (Act.ne_of_isOrdinary rfl hact)
  cases operation with
  | connect => exact .connect hordinary hconsistent.isConnecting_eq
  | disconnect => exact .disconnect hordinary (hstop rfl)
  | execute command => exact .execute hP hs hconsistent command
  | probe => exact .execute hP hs hconsistent .ping
  | heartbeat epoch => exact .heartbeat hP hs hconsistent epoch
  | wait span => exact Moves.refl.move (hordinary _ rfl) (.wait span)

/-- A run is made of moves, by induction on its operations. -/
theorem Moves.run (hs : s.Linked) (hconsistent : s.Consistent) (operations : List Operation) :
    s.Moves (fun _ => True) (s.run operations) := by
  induction operations generalizing s with
  | nil => exact .refl
  | cons operation operations ih =>
    have hreaches : Reaches (fun _ => True) s (s.perform operation) :=
      .perform hs fun _ _ => trivial
    have hfirst : s.Moves (fun _ => True) (s.perform operation) :=
      .perform (fun _ _ => trivial) hs hconsistent fun _ => trivial
    exact hfirst.trans (ih (hreaches.linked hs) (hreaches.consistent hconsistent))

end Runs

end Channel

namespace Scenario

open Channel

/-- All that happens from the beginning is made of moves. So what is true of single moves and of the
beginning is true of every run. -/
theorem moves_after (sc : Scenario) (operations : List Operation) :
    sc.start.Moves (fun _ => True) (sc.after operations) :=
  .run sc.linked_start sc.consistent_start operations

end Scenario

end CommandChannel
