import CommandChannel.Proofs.Retries

/-!
# Used up budgets

A manager whose attempts to connect again are used up rests: whatever is asked of it, it does
nothing towards the peer and every command fails at once, until a connection is made on request.
-/

namespace CommandChannel

/-- Where no attempt is left none is made, and neither is a pause. -/
theorem Backoff.run_of_not_mayRetry {σ : Type} {policy : Backoff} {made : Nat}
    (h : policy.mayRetry made = false) (pause : Nat → Duration → σ → σ) (attempt : σ → Bool × σ)
    (s : σ) : policy.run pause attempt made s = (false, made, s) := by
  unfold run
  rw [dif_neg]
  simp [h]

namespace Channel

/-- The manager is not connected, and no attempt to connect again is left. -/
structure Exhausted (s : Channel) : Prop where
  /-- While it is connected, no attempt is needed. -/
  not_connected : s.manager.state ≠ .connected
  link_eq : s.manager.link = none
  /-- All attempts of the budget were made since the last success. -/
  attempts_eq : s.manager.attempts = s.manager.config.backoff.maxAttempts

/-- Between two channels nothing was done towards the peer. Of the manager only the state and the
monitor changed, and the moment of the last request to end the connection. -/
structure Rests (s t : Channel) : Prop where
  /-- The connection, the attempts and the replies that are owed are as they were. -/
  manager_eq : ∃ state published heartbeat epoch lastDisconnected, t.manager =
    { s.manager with
      state, published, heartbeat, epoch, stats := { s.manager.stats with lastDisconnected } }
  /-- No host was looked up, and no address was tried. -/
  actions_eq : t.world.actions = s.world.actions
  /-- No connection was made or given up, and no byte passed over one. -/
  traffic : s.world.SameTraffic t.world

section Rests

variable {s t u : Channel}

/-- Between a channel and itself nothing was done, so that a run of no operations is a rest. -/
theorem Rests.refl (s : Channel) : s.Rests s := ⟨⟨_, _, _, _, _, rfl⟩, rfl, .refl _⟩

/-- A rest may be followed by another one. So a run of rests is a rest. -/
theorem Rests.trans (hst : s.Rests t) (htu : t.Rests u) : s.Rests u where
  manager_eq := by
    obtain ⟨_, _, _, _, _, ht⟩ := hst.manager_eq
    obtain ⟨state, published, heartbeat, epoch, moment, hu⟩ := htu.manager_eq
    exact ⟨state, published, heartbeat, epoch, moment, by rw [hu, ht]⟩
  actions_eq := htu.actions_eq.trans hst.actions_eq
  traffic := hst.traffic.trans htu.traffic

/-- Telling something to watchers does not end a rest. A manager that rests still says why it does
not act. -/
theorem Rests.tell (h : s.Rests t) (notice : Notice) : s.Rests (t.tell notice) :=
  h.trans ⟨⟨_, _, _, _, _, rfl⟩, rfl, t.world.sameTraffic_tell notice⟩

/-- A change of state does not end a rest, as it is among what may change. -/
theorem Rests.transition (h : s.Rests t) (next : LinkState) : s.Rests (t.transition next) :=
  h.trans ⟨⟨next, next, _, _, _, by rw [manager_transition]⟩, actions_transition t next,
    sameTraffic_transition t next⟩

/-- Stopping the monitor does not end a rest: it is nothing done towards the peer. -/
theorem Rests.stopHeartbeat (h : s.Rests t) : s.Rests t.stopHeartbeat.2 := by
  obtain ⟨hmanager, htraffic⟩ := t.stopHeartbeat_eq
  refine h.trans ⟨⟨_, _, _, _, _, hmanager⟩, ?_, htraffic⟩
  unfold Channel.stopHeartbeat
  split <;> rfl

/-- The moment of a disconnection may change while a manager rests. -/
theorem Rests.count_disconnect (h : s.Rests t) (now : Duration) :
    s.Rests (t.count (Stats.recordDisconnect now)) :=
  h.trans ⟨⟨_, _, _, _, some now, rfl⟩, rfl, .refl _⟩

/-- A manager that rests is still out of attempts, unless it is connected. Only a request to connect
can change that. -/
theorem Rests.exhausted (h : s.Rests t) (hs : s.Exhausted) (hstate : t.manager.state ≠ .connected) :
    t.Exhausted := by
  obtain ⟨_, _, _, _, _, hmanager⟩ := h.manager_eq
  rw [hmanager] at hstate
  refine ⟨?_, ?_, ?_⟩ <;> rw [hmanager]
  · exact hstate
  · exact hs.link_eq
  · exact hs.attempts_eq

end Rests

section Exhausted

variable {s : Channel}

/-- Without an attempt left a manager gives up at once. It pauses for nothing and looks nothing
up. -/
theorem Exhausted.reconnect (hs : s.Exhausted) :
    ∃ t, s.reconnect = (false, t) ∧ s.Rests t ∧ t.manager.state = .error := by
  have hnone : (s.transition .reconnecting).manager.config.backoff.mayRetry
      (s.transition .reconnecting).manager.attempts = false := by
    rw [manager_transition]
    simp [Backoff.mayRetry, hs.attempts_eq]
  unfold Channel.reconnect
  rw [closeLink_of_none hs.link_eq]
  -- The budget is looked at before the pause, so that there is no pause either.
  simp only [Backoff.run_of_not_mayRetry hnone]
  exact ⟨_, rfl, (((Rests.refl s).transition _).tell _).transition _, by simp⟩

/-- Without an attempt left a command fails at once, unless there is no frame for it. It is told
that there is no connection, and nothing is looked up or tried. -/
theorem Exhausted.execute (hs : s.Exhausted) {command : Command} {frame : List UInt8}
    (hencode : Frame.encode (.command command) = .ok frame) :
    ∃ t, s.execute command = (.fail notConnectedText true, t) ∧ s.Rests t ∧
      t.manager.state = .error := by
  obtain ⟨t, hreconnect, hrests, hstate⟩ := hs.reconnect
  have hensure : s.ensureLink = (false, t) := by
    unfold ensureLink
    rw [if_neg (fun h => hs.not_connected (LinkState.isConnected_iff.1 h)), hreconnect]
  refine ⟨t, ?_, hrests, hstate⟩
  unfold Channel.execute
  rw [hencode]
  dsimp only
  unfold exchange
  rw [hensure]

/-- Whatever the command is, the manager rests and has no attempt left after it. -/
theorem Exhausted.rests_execute (hs : s.Exhausted) (command : Command) :
    s.Rests (s.execute command).2 ∧ (s.execute command).2.Exhausted := by
  cases hencode : Frame.encode (.command command) with
  | error e =>
    unfold Channel.execute
    rw [hencode]
    exact ⟨.refl s, hs⟩
  | ok frame =>
    obtain ⟨t, hexecute, hrests, hstate⟩ := hs.execute hencode
    rw [hexecute]
    exact ⟨hrests, hrests.exhausted hs (by simp [hstate])⟩

/-- A manager without a connection has none to end, so that ending it does nothing towards the
peer. -/
theorem Exhausted.rests_disconnect (hs : s.Exhausted) :
    s.Rests s.disconnect.2 ∧ s.disconnect.2.Exhausted := by
  have hstopped := (Rests.refl s).stopHeartbeat
  obtain ⟨hmanager, -⟩ := s.stopHeartbeat_eq
  have hstate : s.disconnect.2.manager.state ≠ .connected := by
    obtain ⟨_, hended⟩ := s.disconnects_disconnect.manager_eq
    simp [hended]
  have hrests : s.Rests s.disconnect.2 := by
    unfold Channel.disconnect
    rcases hstopping : s.stopHeartbeat with ⟨handle, t⟩
    rw [hstopping] at hstopped hmanager
    have hlink : t.manager.link = none := by
      rw [hmanager]
      exact hs.link_eq
    have hclose : t.sendClose.closeLink = t := by
      unfold sendClose
      rw [hlink]
      exact closeLink_of_none hlink
    simp only [hclose]
    split
    · exact ((hstopped.count_disconnect _).tell _).transition _
    · exact hstopped.transition _
  exact ⟨hrests, hrests.exhausted hs hstate⟩

/-- Whatever a manager without an attempt left is asked for but to connect, it rests. There is one
case for each operation. -/
theorem Exhausted.rests_perform (hs : s.Exhausted) {operation : Operation}
    (hoperation : operation ≠ .connect) :
    s.Rests (s.perform operation) ∧ (s.perform operation).Exhausted := by
  cases operation with
  | connect => exact absurd rfl hoperation
  | disconnect => exact hs.rests_disconnect
  | execute command => exact hs.rests_execute command
  | probe => exact hs.rests_execute .ping
  | heartbeat epoch =>
    change s.Rests (s.heartbeat epoch).2 ∧ (s.heartbeat epoch).2.Exhausted
    unfold Channel.heartbeat
    split
    · exact hs.rests_execute .ping
    · have htold := (Rests.refl s).tell (.heartbeatStale epoch s.manager.epoch)
      exact ⟨htold, htold.exhausted hs hs.not_connected⟩
  | wait span =>
    have hwaited : s.Rests (s.perform (.wait span)) :=
      ⟨⟨_, _, _, _, _, rfl⟩, rfl, .of_history_eq rfl rfl⟩
    exact ⟨hwaited, hwaited.exhausted hs hs.not_connected⟩

/-- A manager without an attempt left rests for as long as it is not asked to connect, by induction
on what it is asked for. -/
theorem Exhausted.rests_run (hs : s.Exhausted) {operations : List Operation}
    (hoperations : ∀ operation ∈ operations, operation ≠ .connect) :
    s.Rests (s.run operations) ∧ (s.run operations).Exhausted := by
  induction operations generalizing s with
  | nil => exact ⟨.refl s, hs⟩
  | cons operation operations ih =>
    obtain ⟨hfirst, hexhausted⟩ := hs.rests_perform (hoperations operation List.mem_cons_self)
    obtain ⟨hlater, hended⟩ := ih hexhausted fun other hmem =>
      hoperations other (List.mem_cons_of_mem _ hmem)
    exact ⟨hfirst.trans hlater, hended⟩

/-- A request to connect that fails leaves no attempt either. One that succeeds begins to count
anew. -/
theorem Exhausted.connect (hs : s.Exhausted) {done : Bool} {t : Channel}
    (h : s.connect = (done, t)) :
    (done = false → t.Exhausted) ∧
      (done = true → t.manager.state = .connected ∧ t.manager.attempts = 0) := by
  have hclosed := closeLink_of_none hs.link_eq
  rcases s.connect_cases with ⟨hstate, -⟩ | ⟨-, ⟨link, u, hu, hopens⟩ | ⟨u, hu, hfails⟩⟩
  · exact absurd hstate hs.not_connected
  · rw [hu] at h
    cases h
    obtain ⟨_, _, _, hmanager⟩ := hopens.manager_eq
    rw [hmanager]
    refine ⟨fun hdone => ?_, fun _ => ⟨rfl, rfl⟩⟩
    cases hdone
  · rw [hu] at h
    cases h
    obtain ⟨_, hmanager⟩ := hfails.manager_eq
    rw [hclosed] at hmanager
    refine ⟨fun _ => ⟨?_, ?_, ?_⟩, fun hdone => ?_⟩
    · rw [hmanager]
      simp
    · rw [hmanager]
    · rw [hmanager]
      exact hs.attempts_eq
    · cases hdone

end Exhausted

end Channel

namespace Scenario

open Channel

variable (sc : Scenario)

/-- Between operations a manager that is not connected and counts as many failed attempts as are
allowed has no attempt left. -/
theorem exhausted_after {operations : List Operation}
    (hstate : (sc.after operations).manager.state ≠ .connected)
    (hattempts : (sc.after operations).manager.attempts = sc.config.backoff.maxAttempts) :
    (sc.after operations).Exhausted where
  not_connected := hstate
  link_eq := by
    have hlink := (sc.consistent_after operations).settled.isSome_link
    rw [← Option.not_isSome_iff_eq_none, hlink]
    exact hstate
  attempts_eq := by
    rw [(sc.reaches_after operations).config_eq]
    exact hattempts

/-- Once the attempts to connect again are used up, a manager does nothing towards the peer and
changes none of its counts for as long as it is not asked to connect, and every command with a
frame fails at once. A request to connect that fails leaves it so. One that succeeds makes it
connected, and no failed attempts are counted any longer. -/
theorem exhaustion_after {operations more : List Operation}
    (hstate : (sc.after operations).manager.state ≠ .connected)
    (hattempts : (sc.after operations).manager.attempts = sc.config.backoff.maxAttempts)
    (hmore : ∀ operation ∈ more, operation ≠ .connect) :
    let s := sc.after operations
    let t := sc.after (operations ++ more)
    s.Rests t ∧ t.Exhausted ∧
    (∀ command frame, Frame.encode (.command command) = .ok frame →
      ∃ u, t.execute command = (.fail notConnectedText true, u) ∧ u.manager.state = .error) ∧
    (∀ u, t.connect = (false, u) → u.Exhausted) ∧
    (∀ u, t.connect = (true, u) → u.manager.state = .connected ∧ u.manager.attempts = 0) := by
  have hrun := (sc.exhausted_after hstate hattempts).rests_run hmore
  rw [← sc.after_append] at hrun
  intro s t
  obtain ⟨hrests, ht⟩ : s.Rests t ∧ t.Exhausted := hrun
  clear_value s t
  refine ⟨hrests, ht, ?_, ?_, ?_⟩
  · intro command frame hencode
    obtain ⟨u, hexecute, -, herror⟩ := ht.execute hencode
    exact ⟨u, hexecute, herror⟩
  · intro u hconnect
    exact (ht.connect hconnect).1 rfl
  · intro u hconnect
    exact (ht.connect hconnect).2 rfl

/-- A manager that may try once to connect again, and whose peer refuses. -/
def refused : Scenario where
  config := { backoff := { maxAttempts := 1 } }

/-- A command uses the attempt up; what is asked for after that is in vain. -/
theorem exhaustion_after_refusal :
    (refused.after [.execute .ping]).manager.state ≠ .connected ∧
    (refused.after [.execute .ping]).manager.attempts = refused.config.backoff.maxAttempts ∧
    (refused.after [.execute .ping]).Rests
      (refused.after [.execute .ping, .heartbeat 0, .disconnect, .probe]) := by
  have hstate : (refused.after [.execute .ping]).manager.state ≠ .connected := by decide +kernel
  have hattempts : (refused.after [.execute .ping]).manager.attempts =
      refused.config.backoff.maxAttempts := by decide +kernel
  have hmore : ∀ operation ∈ [Operation.heartbeat 0, .disconnect, .probe],
      operation ≠ .connect := by simp
  exact ⟨hstate, hattempts, (refused.exhaustion_after hstate hattempts hmore).1⟩

end Scenario

end CommandChannel
