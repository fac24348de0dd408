import CommandChannel.Proofs.Opening

/-!
# Connecting and connecting again

Connecting on request makes one attempt. Connecting again makes attempts until one succeeds or the
budget is used up; the attempts that failed before count too. Both end with the manager connected,
or in the state of an error and without a connection.
-/

namespace CommandChannel

/-- Pauses and attempts end with a success, or when no attempt is left. What every failed attempt
keeps holds before the last attempt, and at the end if none succeeded. -/
theorem Backoff.run_cases {σ : Type} (policy : Backoff) (pause : Nat → Duration → σ → σ)
    (attempt : σ → Bool × σ) (I : Nat → σ → Prop)
    (hfails : ∀ made s t, policy.mayRetry made = true → I made s →
      attempt (pause (made + 1) (policy.delay (made + 1)) s) = (false, t) → I (made + 1) t)
    {made : Nat} {s : σ} (hstart : I made s) :
    (∃ before u t, policy.mayRetry before = true ∧ I before u ∧
      attempt (pause (before + 1) (policy.delay (before + 1)) u) = (true, t) ∧
      policy.run pause attempt made s = (true, before + 1, t)) ∨
    ∃ all t, policy.mayRetry all = false ∧ I all t ∧
      policy.run pause attempt made s = (false, all, t) := by
  fun_induction Backoff.run policy pause attempt made s with
  | case1 made s hleft t hattempt => exact .inl ⟨made, s, t, hleft, hstart, hattempt, rfl⟩
  | case2 made s hleft t hattempt ih => exact ih (hfails made s t hleft hstart hattempt)
  | case3 made s hleft => exact .inr ⟨made, s, by simpa using hleft, hstart, rfl⟩

namespace World

/-- In a quiet time there were no attempts, and so no lookups. -/
theorem SameTraffic.seeks_zero {u v : World} (h : u.SameTraffic v) : u.Seeks 0 v :=
  .of_unchanged h.made_eq h.account_eq h.tally_eq

/-- What is true of attempts after a quiet time is true from its beginning on. -/
theorem SameTraffic.seeks {u v w : World} {count : Nat} (huv : u.SameTraffic v)
    (hvw : v.Seeks count w) : u.Seeks count w := by
  have h := huv.seeks_zero.trans hvw
  rwa [Nat.zero_add] at h

/-- What is true of attempts before a quiet time is true up to its end. -/
theorem Seeks.sameTraffic {u v w : World} {count : Nat} (huv : u.Seeks count v)
    (hvw : v.SameTraffic w) : u.Seeks count w :=
  huv.trans hvw.seeks_zero

end World

namespace Channel

/-- A change of the state concerns no connection, so it may be left out of account. -/
theorem sameTraffic_transition (s : Channel) (next : LinkState) :
    s.world.SameTraffic (s.transition next).world := by
  constructor <;> simp

/-- The states on the way to a connection do not matter in the end, as it replaces them. -/
theorem Opens.of_sameTraffic {s s' t : Channel} {count : Nat} {link : Link}
    (h : s'.Opens count link t) (next : LinkState)
    (hmanager : s'.manager = { s.manager with state := next, published := next })
    (hworld : s.world.SameTraffic s'.world) : s.Opens count link t where
  manager_eq := by
    obtain ⟨stats, heartbeat, activity, ht⟩ := h.manager_eq
    exact ⟨stats, heartbeat, activity, by rw [ht, hmanager]⟩
  heartbeat_cases := by simpa [hmanager] using h.heartbeat_cases
  world := by
    obtain ⟨u, hseeks, hmakes⟩ := h.world
    exact ⟨u, hworld.seeks hseeks, hmakes⟩

/-- A connection that is opened after failed attempts is opened from the beginning of these, with
all lookups counted. -/
theorem Seeks.opens {s t u : Channel} {m n : Nat} {link : Link} (hst : s.Seeks m t)
    (htu : t.Opens n link u) : s.Opens (m + n) link u where
  manager_eq := by
    obtain ⟨_, ht⟩ := hst.manager_eq
    obtain ⟨stats, heartbeat, activity, hu⟩ := htu.manager_eq
    exact ⟨stats, heartbeat, activity, by rw [hu, ht]⟩
  heartbeat_cases := by
    obtain ⟨_, ht⟩ := hst.manager_eq
    simpa [ht] using htu.heartbeat_cases
  world := by
    obtain ⟨w, hseeks, hmakes⟩ := htu.world
    exact ⟨w, hst.world.trans hseeks, hmakes⟩

/-- The pause before an attempt is no attempt, and changes nothing of the manager. -/
theorem seeks_pause (attempt : Nat) (span : Duration) (s : Channel) :
    s.Seeks 0 (s.pause attempt span) where
  manager_eq := ⟨_, rfl⟩
  world := .of_unchanged rfl (fun _ => rfl) rfl

/-- What is told and counted after attempts that failed belongs to them. -/
theorem Seeks.count_tell {s t : Channel} {n : Nat} (h : s.Seeks n t) (notice : Notice)
    (f : Stats → Stats) : s.Seeks n ((t.tell notice).count f) where
  manager_eq := by
    obtain ⟨stats, hmanager⟩ := h.manager_eq
    exact ⟨f stats, by rw [manager_count, manager_tell, hmanager]⟩
  world := h.world.sameTraffic (t.world.sameTraffic_tell notice)

/-- An attempt to connect again fails, or opens a connection. It looks the peer up once in either
case. -/
theorem attempt_cases {s : Channel} (hlink : s.manager.link = none) :
    (∃ t, s.attempt = (false, t) ∧ s.Seeks 1 t) ∨
      ∃ link t, s.attempt = (true, t) ∧ s.Opens 1 link t := by
  have hcount : s.Seeks 0 (s.count Stats.recordReconnect) :=
    ⟨⟨_, rfl⟩, .of_unchanged rfl (fun _ => rfl) rfl⟩
  have hclosed : (s.count Stats.recordReconnect).closeLink = s.count Stats.recordReconnect :=
    closeLink_of_none hlink
  unfold attempt
  rcases openLink_cases (s.count Stats.recordReconnect) with
    ⟨e, t, hopen, hseeks⟩ | ⟨link, t, hopen, hopens⟩
  · rw [hclosed] at hseeks
    rw [hopen]
    exact .inl ⟨_, rfl, (hcount.trans hseeks).count_tell _ _⟩
  · rw [hclosed] at hopens
    rw [hopen]
    exact .inr ⟨link, t, rfl, hcount.opens hopens⟩

/-- So many attempts were made in all when the channel was `s`; those since `start` failed, and
each of them was within the budget. -/
def FailedSince (start : Channel) (made : Nat) (s : Channel) : Prop :=
  ∃ count, made = start.manager.attempts + count ∧ start.Seeks count s ∧
    (count = 0 ∨ made ≤ start.manager.config.backoff.maxAttempts)

/-- One more attempt after a pause fails like those before it, or opens a connection. This is the
step of the induction over the attempts. -/
theorem FailedSince.attempt_cases {start s : Channel} {made : Nat}
    (hlink : start.manager.link = none) (h : FailedSince start made s)
    (hleft : made < start.manager.config.backoff.maxAttempts) (span : Duration) :
    (∃ t, (s.pause (made + 1) span).attempt = (false, t) ∧ FailedSince start (made + 1) t) ∨
      ∃ count link t, (s.pause (made + 1) span).attempt = (true, t) ∧
        start.Opens count link t ∧
        start.manager.attempts + count ≤ start.manager.config.backoff.maxAttempts := by
  obtain ⟨count, rfl, hseeks, -⟩ := h
  have hpaused := hseeks.trans (seeks_pause (start.manager.attempts + count + 1) span s)
  have hnone : (s.pause (start.manager.attempts + count + 1) span).manager.link = none := by
    obtain ⟨_, hmanager⟩ := hpaused.manager_eq
    rw [hmanager]
    exact hlink
  rcases Channel.attempt_cases hnone with ⟨t, hattempt, ht⟩ | ⟨link, t, hattempt, ht⟩
  · exact .inl ⟨t, hattempt, count + 1, by omega, hpaused.trans ht, .inr (by omega)⟩
  · exact .inr ⟨count + 1, link, t, hattempt, hpaused.opens ht, by omega⟩

/-- Attempts to connect failed between two channels until none was left, after so many lookups.
The later manager is in the state of an error, and the failed attempts are counted. -/
structure GivesUp (count : Nat) (s t : Channel) : Prop where
  manager_eq : ∃ stats, t.manager =
    { s.manager with
      state := .error, published := .error, attempts := s.manager.attempts + count, stats }
  /-- All connections that were made on the way were given up. -/
  world : s.world.Seeks count t.world
  /-- No attempt is left. -/
  exhausted : s.manager.config.backoff.maxAttempts ≤ s.manager.attempts + count
  /-- No more attempts were made than were left. -/
  within : count = 0 ∨ s.manager.attempts + count ≤ s.manager.config.backoff.maxAttempts

/-- A manager that gives up has the connection that it had before. -/
theorem GivesUp.link_eq {s t : Channel} {count : Nat} (h : s.GivesUp count t) :
    t.manager.link = s.manager.link := by
  obtain ⟨_, hmanager⟩ := h.manager_eq
  rw [hmanager]

/-- The attempts of a manager that begins to connect again open a connection within the budget, or
all fail until the budget is used up. -/
theorem run_attempt_cases {start : Channel} (hlink : start.manager.link = none) :
    (∃ count link made t,
      start.manager.config.backoff.run pause attempt start.manager.attempts start =
        (true, made, t) ∧ start.Opens count link t ∧
      start.manager.attempts + count ≤ start.manager.config.backoff.maxAttempts) ∨
    ∃ made t,
      start.manager.config.backoff.run pause attempt start.manager.attempts start =
        (false, made, t) ∧ FailedSince start made t ∧
      start.manager.config.backoff.maxAttempts ≤ made := by
  have hinit : FailedSince start start.manager.attempts start :=
    ⟨0, rfl, ⟨⟨_, rfl⟩, .refl _⟩, .inl rfl⟩
  have hleft {made : Nat} (h : start.manager.config.backoff.mayRetry made = true) :
      made < start.manager.config.backoff.maxAttempts := of_decide_eq_true h
  have hfails (made : Nat) (s t : Channel)
      (hretry : start.manager.config.backoff.mayRetry made = true) (hs : FailedSince start made s)
      (hattempt : (s.pause (made + 1) (start.manager.config.backoff.delay (made + 1))).attempt =
        (false, t)) : FailedSince start (made + 1) t := by
    rcases hs.attempt_cases hlink (hleft hretry)
      (start.manager.config.backoff.delay (made + 1)) with ⟨u, hu, hfailed⟩ | ⟨_, _, u, hu, _⟩
    · rw [hattempt] at hu
      cases hu
      exact hfailed
    · rw [hattempt] at hu
      cases hu
  rcases Backoff.run_cases _ pause attempt (FailedSince start) hfails hinit with
    ⟨before, s, t, hretry, hs, hattempt, hrun⟩ | ⟨made, t, hretry, ht, hrun⟩
  · rcases hs.attempt_cases hlink (hleft hretry)
      (start.manager.config.backoff.delay (before + 1)) with
      ⟨u, hu, _⟩ | ⟨count, link, u, hu, hopens, hwithin⟩
    · rw [hattempt] at hu
      cases hu
    · rw [hattempt] at hu
      cases hu
      exact .inl ⟨count, link, before + 1, t, hrun, hopens, hwithin⟩
  · exact .inr ⟨made, t, hrun, ht, Nat.le_of_not_lt (of_decide_eq_false hretry)⟩

/-- Connecting again opens a connection within the budget, or gives up when the budget is used
up. -/
theorem reconnect_cases (s : Channel) :
    (∃ count link t, s.reconnect = (true, t) ∧ s.closeLink.Opens count link t ∧
      s.manager.attempts + count ≤ s.manager.config.backoff.maxAttempts) ∨
    ∃ count t, s.reconnect = (false, t) ∧ s.closeLink.GivesUp count t := by
  have hlink : (s.closeLink.transition .reconnecting).manager.link = none := by simp
  unfold reconnect
  rcases run_attempt_cases hlink with
    ⟨count, link, made, t, hrun, hopens, hwithin⟩ | ⟨made, t, hrun, hfailed, hexhausted⟩
  · simp only [hrun]
    exact .inl ⟨count, link, t, rfl,
      hopens.of_sameTraffic .reconnecting (manager_transition _ _)
        (s.closeLink.sameTraffic_transition _),
      by simpa using hwithin⟩
  · simp only [hrun]
    obtain ⟨count, hmade, hseeks, hwithin⟩ := hfailed
    obtain ⟨stats, hmanager⟩ := hseeks.manager_eq
    simp only [manager_transition, manager_closeLink] at hmade hexhausted hwithin
    refine .inr ⟨count, _, rfl, ⟨stats, ?_⟩, ?_, ?_, ?_⟩
    · simp [hmanager, hmade]
    · refine ((s.closeLink.sameTraffic_transition _).seeks hseeks.world).sameTraffic ?_
      constructor <;> simp
    · simpa [← hmade] using hexhausted
    · simpa [← hmade] using hwithin

/-- An attempt to connect on request failed between two channels. The later manager is in the state
of an error; its counts of attempts and replies are the earlier ones. -/
structure FailsToConnect (s t : Channel) : Prop where
  manager_eq : ∃ stats, t.manager =
    { s.manager with state := .error, published := .error, link := none, stats }
  world : s.world.Seeks 1 t.world

/-- After a request to connect that failed there is no connection. -/
theorem FailsToConnect.link_eq {s t : Channel} (h : s.FailsToConnect t) :
    t.manager.link = none := by
  obtain ⟨_, hmanager⟩ := h.manager_eq
  rw [hmanager]

/-- Giving up the same connection after a quiet time comes to the same. -/
theorem sameTraffic_closeLink {s t : Channel} (hlink : t.manager.link = s.manager.link)
    (hworld : s.world.SameTraffic t.world) : s.closeLink.world.SameTraffic t.closeLink.world := by
  cases hs : s.manager.link with
  | none =>
    rw [closeLink_of_none hs, closeLink_of_none (hlink.trans hs)]
    exact hworld
  | some link =>
    refine ⟨by simp [hworld.made_eq], fun c => ?_, by simp [hworld.tally_eq]⟩
    rw [account_closeLink hs, account_closeLink (hlink.trans hs), hworld.account_eq]

/-- A failure without a connection concerns none. It is only noted and changes the state. -/
theorem sameTraffic_fail {s : Channel} (h : s.manager.link = none) :
    s.world.SameTraffic s.fail.world :=
  ⟨by simp, fun c => by rw [account_fail, closeLink_of_none h], by simp⟩

/-- A request to connect does nothing where there is a connection. Otherwise it opens one by a
single attempt, or that attempt fails. -/
theorem connect_cases (s : Channel) :
    (s.manager.state = .connected ∧ s.connect = (true, s.tell .alreadyConnected)) ∨
      s.manager.state ≠ .connected ∧
        ((∃ link t, s.connect = (true, t) ∧ s.closeLink.Opens 1 link t) ∨
          ∃ t, s.connect = (false, t) ∧ s.closeLink.FailsToConnect t) := by
  unfold connect
  by_cases hstate : s.manager.state = .connected
  · rw [if_pos (LinkState.isConnected_iff.2 hstate)]
    exact .inl ⟨hstate, rfl⟩
  · rw [if_neg (fun h => hstate (LinkState.isConnected_iff.1 h))]
    refine .inr ⟨hstate, ?_⟩
    have hquiet := sameTraffic_closeLink (s := s) (t := s.transition .connecting) (by simp)
      (s.sameTraffic_transition _)
    rcases openLink_cases (s.transition .connecting) with
      ⟨e, t, hopen, hseeks⟩ | ⟨link, t, hopen, hopens⟩
    · rw [hopen]
      have hcounted := hseeks.count_tell (.connectFailed t.manager.config.endpoint e)
        (Stats.recordFailure t.now)
      obtain ⟨_, hmanager⟩ := hcounted.manager_eq
      obtain ⟨stats, hfailed⟩ := manager_fail
        ((t.tell (.connectFailed t.manager.config.endpoint e)).count (Stats.recordFailure t.now))
      refine .inr ⟨_, rfl, ⟨stats, hfailed.trans ?_⟩, ?_⟩
      · rw [hmanager, manager_closeLink, manager_transition, manager_closeLink]
      · exact (hquiet.seeks hcounted.world).sameTraffic
          (sameTraffic_fail (by rw [hmanager, manager_closeLink]))
    · rw [hopen]
      exact .inl ⟨link, t, rfl, hopens.of_sameTraffic .connecting (by simp) hquiet⟩

end Channel

end CommandChannel
