import CommandChannel.Proofs.Consistency
import Mathlib.Data.List.Chain

/-!
# Commands that are sent again

A command is sent once more only after its frame left over a connection that was then lost, and
only over a connection that was opened after the loss. Every other failure ends the command, and
nothing is done towards the peer after it. The attempts to connect are bounded.
-/

namespace CommandChannel

open Relation

/-- Time that was up is no loss, so that a frame is not sent again for it. -/
theorem ChannelError.isLoss_of_isTimeout {e : ChannelError} (h : e.isTimeout = true) :
    e.isLoss = false := by
  cases e with
  | timedOut => rfl
  | _ => cases h

namespace Channel

section Config

variable {s t : Channel}

/-- Seeing to a connection leaves the configuration as it is, and with it the budget. -/
theorem config_ensureLink {done : Bool} (h : s.ensureLink = (done, t)) :
    t.manager.config = s.manager.config :=
  (Reaches.ensureLink (P := fun _ => True) h).1.config_eq

/-- A round trip leaves the configuration as it is, and with it the budget. -/
theorem Trip.Runs.config_eq {frame : List UInt8} {trip : Trip} (h : trip.Runs frame)
    (hframe : frame ≠ []) : trip.after.manager.config = trip.before.manager.config := by
  obtain ⟨link, trade, replies, -, -, -, htrades⟩ := h.exists_trades hframe
  obtain ⟨_, _, _, _, _, _, hmanager⟩ := htrades.manager_eq
  rw [hmanager]

end Config

section Actions

variable (s : Channel)

/-- A change of the state is nothing done towards the peer. -/
theorem actions_transition (next : LinkState) :
    (s.transition next).world.actions = s.world.actions := by
  unfold transition
  simp only
  split <;> rfl

/-- Giving a connection up is nothing done towards the peer. It is told only by the closing frame,
and that is offered before. -/
theorem actions_closeLink : s.closeLink.world.actions = s.world.actions := by
  unfold closeLink
  split <;> rfl

/-- Giving a connection up after a failure is nothing done towards the peer. -/
theorem actions_fail : s.fail.world.actions = s.world.actions := by
  unfold fail
  rw [actions_transition]
  exact s.actions_closeLink

end Actions

section Trips

variable {frame : List UInt8} {trip : Trip} {s t : Channel} {resends : Nat} {outcome : Outcome}
  {trips : List Trip}

/-- Only a frame that left as a whole and was flushed is followed by a loss. For a write never fails
with one. -/
theorem Trip.Runs.attempt_eq (h : trip.Runs frame) (hframe : frame ≠ []) (hlost : trip.IsLost) :
    trip.attempt? = some { frame, taken := frame, confirmed := true } := by
  obtain ⟨link, trade, replies, -, hnumber, rfl, htrades⟩ := h.exists_trades hframe
  obtain ⟨e, hresult⟩ := hlost.exists_error
  have hattempt : trip.attempt? = some trade := by
    rw [Trip.attempt?, ← hnumber, htrades.account_eq, if_pos rfl]
    rfl
  cases hconfirmed : trade.confirmed with
  | true =>
    obtain ⟨htaken, -⟩ := htrades.sent hconfirmed
    obtain ⟨frame, taken, confirmed⟩ := trade
    cases htaken
    cases hconfirmed
    exact hattempt
  | false =>
    obtain ⟨-, -, e', hresult', hkept, -⟩ := htrades.unsent hconfirmed
    rw [(Trip.isLost_iff hresult').1 hlost] at hkept
    cases hkept

/-- A command that ends without a loss, or without a resend left, ends at once: nothing more is done
towards the peer. -/
theorem Ending.actions_eq (h : Ending trip resends outcome t)
    (hquiet : ¬ trip.IsLost ∨ resends = 0) : t.world.actions = trip.after.world.actions := by
  cases h with
  | answered _ => rfl
  | timedOut _ _ => rfl
  | failed _ _ _ => exact actions_fail _
  | lost _ _ => exact actions_fail _
  | lostForGood hresult hloss _ =>
    rcases hquiet with hkept | hnone
    · exact absurd ((Trip.isLost_iff hresult).2 hloss) hkept
    · cases hnone

/-- A loss that leaves no resend is what the command ends in, with the text of its error. -/
theorem Ending.outcome_of_isLost (h : Ending trip 0 outcome t) (hlost : trip.IsLost) :
    ∃ e, trip.result = .error e ∧ outcome = .fail e.message true := by
  cases h with
  | answered hresult =>
    obtain ⟨e, herror⟩ := hlost.exists_error
    rw [hresult] at herror
    cases herror
  | timedOut hresult htimeout =>
    rw [Trip.isLost_iff hresult, ChannelError.isLoss_of_isTimeout htimeout] at hlost
    cases hlost
  | failed hresult _ hloss =>
    rw [Trip.isLost_iff hresult, hloss] at hlost
    cases hlost
  | lost hresult _ => exact ⟨_, hresult, rfl⟩

/-- A connection that was renewed is in use, so that the next round trip goes over it. -/
theorem Trip.Renews.connected (h : trip.Renews s) : s.manager.state = .connected := by
  obtain ⟨notice, retry, t, hreconnect, rfl⟩ := h
  have hstate : (trip.after.tell notice).fail.manager.state ≠ .connected := by simp [state_fail]
  exact (Step.reconnect (P := fun _ => True) hstate hreconnect).2 rfl

/-- A connection that was renewed is one that was made after the loss, as its number tells. -/
theorem Trip.Renews.made_le (h : trip.Renews s) {link : Link} (hlink : s.manager.link = some link) :
    trip.after.world.made ≤ link.number := by
  obtain ⟨notice, retry, t, hreconnect, rfl⟩ := h
  rcases (trip.after.tell notice).fail.reconnect_cases with
    ⟨count, link', u, hu, hopens, -⟩ | ⟨count, u, hu, -⟩
  · rw [hu] at hreconnect
    cases hreconnect
    obtain ⟨w, hseeks, hmakes⟩ := hopens.world
    have hle := hseeks.made_le
    rw [made_closeLink, made_fail] at hle
    rw [manager_tell, hopens.link_eq] at hlink
    rw [← Option.some_inj.1 hlink, hmakes.number_eq]
    exact hle
  · rw [hu] at hreconnect
    cases hreconnect

/-- A connection that is in use need not be seen to. -/
theorem ensureLink_of_connected (h : s.manager.state = .connected) :
    s.ensureLink = (true, s) := if_pos (LinkState.isConnected_iff.2 h)

/-- Over a connection in use the course of a command begins with a round trip. -/
theorem Course.exists_cons (h : Course frame resends s trips outcome t)
    (hs : s.manager.state = .connected) :
    ∃ trip rest, trips = trip :: rest ∧ trip.before = s := by
  have hready := ensureLink_of_connected hs
  cases h with
  | unreachable hensure =>
    rw [hready] at hensure
    cases hensure
  | @ended _ _ _ trip _ hensure _ _ =>
    rw [hready] at hensure
    exact ⟨trip, [], rfl, (Prod.ext_iff.1 hensure).2.symm⟩
  | @resent _ _ _ _ trip trips _ hensure _ _ _ _ =>
    rw [hready] at hensure
    exact ⟨trip, trips, rfl, (Prod.ext_iff.1 hensure).2.symm⟩

/-- A course makes one round trip more than there are resends at most, by induction on the
course. -/
theorem Course.length_le (h : Course frame resends s trips outcome t) :
    trips.length ≤ resends + 1 := by
  induction h with
  | unreachable _ => exact Nat.zero_le _
  | ended _ _ _ => exact Nat.le_add_left 1 _
  | resent _ _ _ _ _ ih => exact Nat.succ_le_succ ih

/-- A round trip is followed by another one only after a loss, over a renewed connection. -/
theorem Course.isChain (h : Course frame resends s trips outcome t) :
    trips.IsChain fun first second => first.IsLost ∧ first.Renews second.before := by
  induction h with
  | unreachable _ => exact .nil
  | ended _ _ _ => exact .singleton _
  | resent _ _ hlost hrenews hrest ih =>
    obtain ⟨second, rest, rfl, rfl⟩ := hrest.exists_cons hrenews.connected
    exact .cons_cons ⟨hlost, hrenews⟩ ih

/-- The last round trip of a course ends the command, with the resends that were not used left. -/
theorem Course.exists_ending (h : Course frame resends s trips outcome t) {last : Trip}
    (hlast : trips.getLast? = some last) :
    ∃ left, left + trips.length = resends + 1 ∧ Ending last left outcome t := by
  induction h with
  | unreachable _ => cases hlast
  | @ended resends _ _ _ _ _ _ hending =>
    cases hlast
    exact ⟨resends, rfl, hending⟩
  | resent _ _ _ hrenews hrest ih =>
    obtain ⟨second, rest, rfl, -⟩ := hrest.exists_cons hrenews.connected
    obtain ⟨left, hleft, hending⟩ := ih (by simpa using hlast)
    exact ⟨left, by simp only [List.length_cons] at hleft ⊢; omega, hending⟩

/-- A command offers its frame once on every round trip, and no other one. So the offers of a
history tell how often commands were sent. -/
theorem Course.offers_eq (h : Course frame resends s trips outcome t) (hframe : frame ≠ []) :
    t.world.tally.offers =
      s.world.tally.offers ++ trips.map fun trip => (trip.conn, frame) := by
  induction h with
  | unreachable hensure =>
    obtain ⟨count, htally, -⟩ := exists_lookUp_of_ensureLink hensure
    rw [htally]
    exact (List.append_nil _).symm
  | ended hensure htrip hending =>
    obtain ⟨count, hbefore, -⟩ := exists_lookUp_of_ensureLink hensure
    obtain ⟨count', hafter, -⟩ := hending.exists_lookUp
    have htally := htrip.tally_eq hframe
    rw [hafter, Tally.offers_lookUp, htally, Tally.offers_conclude, hbefore]
    rfl
  | resent hensure htrip _ hrenews _ ih =>
    obtain ⟨count, hbefore, -⟩ := exists_lookUp_of_ensureLink hensure
    obtain ⟨count', hafter, -⟩ := hrenews.exists_lookUp
    have htally := htrip.tally_eq hframe
    rw [ih, hafter, Tally.offers_lookUp, htally, Tally.offers_conclude, hbefore, List.map_cons]
    exact List.append_assoc _ _ _

/-- A command looks the peer up within the budget for each resend, and once more within it if there
was no connection. -/
theorem Course.lookups_le (h : Course frame resends s trips outcome t) (hframe : frame ≠ []) :
    t.world.tally.lookups ≤ s.world.tally.lookups +
      (if s.manager.state = .connected then 0 else s.manager.config.backoff.maxAttempts) +
      resends * s.manager.config.backoff.maxAttempts := by
  induction h with
  | unreachable hensure =>
    obtain ⟨count, htally, hwithin⟩ := exists_lookUp_of_ensureLink hensure
    rw [htally, Tally.lookups_lookUp]
    omega
  | ended hensure htrip hending =>
    obtain ⟨count, hbefore, hwithin⟩ := exists_lookUp_of_ensureLink hensure
    obtain ⟨count', hafter, hwithin'⟩ := hending.exists_lookUp
    have htally := htrip.tally_eq hframe
    rw [htrip.config_eq hframe, config_ensureLink hensure] at hwithin'
    rw [hafter, Tally.lookups_lookUp, htally, Tally.lookups_conclude, hbefore]
    simp only [Tally.offer, Tally.lookups_lookUp]
    omega
  | @resent resends _ _ _ _ _ _ hensure htrip hlost hrenews _ ih =>
    obtain ⟨count, hbefore, hwithin⟩ := exists_lookUp_of_ensureLink hensure
    obtain ⟨count', hafter, hwithin'⟩ := hrenews.exists_lookUp
    have htally := htrip.tally_eq hframe
    have hreaches := hrenews.reaches (P := fun _ => True) hlost htrip trivial hframe
    rw [htrip.config_eq hframe, config_ensureLink hensure] at hwithin'
    rw [if_pos hrenews.connected, hreaches.config_eq, config_ensureLink hensure, hafter,
      Tally.lookups_lookUp, htally, Tally.lookups_conclude, hbefore] at ih
    simp only [Tally.offer, Tally.lookups_lookUp] at ih
    rw [Nat.succ_mul]
    omega

/-- The course of a command begins with a round trip over the connection that was seen to. -/
theorem Course.ensureLink_eq (h : Course frame resends s trips outcome t) {first : Trip}
    (hfirst : trips.head? = some first) : s.ensureLink = (true, first.before) := by
  cases h with
  | unreachable _ => cases hfirst
  | ended hensure _ _ =>
    cases hfirst
    exact hensure
  | resent hensure _ _ _ _ =>
    cases hfirst
    exact hensure

/-- The connection that was renewed is another one, which was not there before. -/
theorem Trip.Renews.fresh {first second : Trip} (h : first.Renews second.before)
    (hfirst : first.Runs frame) (hsecond : second.Runs frame) (hframe : frame ≠ [])
    (hconsistent : first.before.Consistent) :
    first.conn ≠ second.conn ∧ (first.after.world.account second.conn).opened = false := by
  obtain ⟨link, trade, replies, hlink, -, -, htrades⟩ := hfirst.exists_trades hframe
  obtain ⟨link', hlink', hnumber⟩ := Option.map_eq_some_iff.1 hsecond.conn_eq
  have hnew : first.after.world.made ≤ second.conn := hnumber ▸ h.made_le hlink'
  have hold : first.conn < first.before.world.made :=
    hconsistent.ledger.current_lt _ hfirst.conn_eq
  refine ⟨?_, ?_⟩
  · have hmade := htrades.made_eq
    omega
  · rw [(htrades.ledger hlink hconsistent.ledger).unmade _ hnew]

/-- After a round trip without a loss nothing more is done towards the peer. -/
theorem Course.actions_eq (h : Course frame resends s trips outcome t) :
    ∀ trip ∈ trips, ¬ trip.IsLost → t.world.actions = trip.after.world.actions := by
  induction h with
  | unreachable _ => simp
  | ended _ _ hending =>
    intro trip hmem hkept
    rw [List.mem_singleton.1 hmem] at hkept ⊢
    exact hending.actions_eq (.inl hkept)
  | resent _ _ hlost _ _ ih =>
    intro trip hmem hkept
    rcases List.mem_cons.1 hmem with rfl | hmem
    · exact absurd hlost hkept
    · exact ih trip hmem hkept

/-- A command that is sent twice was lost first, and its second round trip, over a new connection,
ends it. -/
theorem Course.second_cases {first second : Trip}
    (h : Course frame maxResends s [first, second] outcome t) (hframe : frame ≠ [])
    (hconsistent : s.Consistent) :
    first.IsLost ∧ first.Renews second.before ∧ first.conn ≠ second.conn ∧
      (first.after.world.account second.conn).opened = false ∧
      (second.before.world.account second.conn).isOpen = true ∧
      t.world.actions = second.after.world.actions ∧
      (second.IsLost → ∃ e, second.result = .error e ∧ outcome = .fail e.message true) := by
  obtain ⟨hlost, hrenews⟩ := List.IsChain.rel h.isChain
  have hlast : [first, second].getLast? = some second := rfl
  obtain ⟨left, hleft, hending⟩ := h.exists_ending hlast
  obtain rfl : left = 0 := by
    simp only [List.length_cons, List.length_nil, maxResends] at hleft
    omega
  have hreached := h.reaches_before (P := fun _ => True) trivial hframe
  obtain ⟨hfirst, hfirstRuns⟩ := hreached first (by simp)
  obtain ⟨hsecond, hsecondRuns⟩ := hreached second (by simp)
  obtain ⟨hne, hnew⟩ := hrenews.fresh hfirstRuns hsecondRuns hframe (hfirst.consistent hconsistent)
  exact ⟨hlost, hrenews, hne, hnew,
    ((hsecond.consistent hconsistent).isOpen_iff _).2 hsecondRuns.conn_eq,
    hending.actions_eq (.inr rfl), hending.outcome_of_isLost⟩

end Trips

end Channel

namespace Scenario

open Channel

variable (sc : Scenario)

/-- A command makes two round trips at most, and offers its frame once on each of them. Only a loss
after the frame left as a whole, and a new connection that was opened then, are followed by the
second one; after every other end of a round trip, and after the second one, nothing more is done
towards the peer. The attempts to connect are within the budget for the resend, and within it once
more if there was no connection. -/
theorem retries_after (operations : List Operation) (command : Command) :
    let s := sc.after operations
    ∃ outcome t frame trips, s.execute command = (outcome, t) ∧
      (trips ≠ [] → Frame.encode (.command command) = .ok frame) ∧
      trips.length ≤ 2 ∧
      t.world.tally.offers =
        s.world.tally.offers ++ trips.map (fun trip : Trip => (trip.conn, frame)) ∧
      (∀ first, trips.head? = some first → s.ensureLink = (true, first.before)) ∧
      (∀ trip ∈ trips, trip.Runs frame ∧
        (trip.IsLost → trip.attempt? = some { frame, taken := frame, confirmed := true }) ∧
        (¬ trip.IsLost → t.world.actions = trip.after.world.actions)) ∧
      (∀ first second, trips = [first, second] →
        first.IsLost ∧ first.Renews second.before ∧ first.conn ≠ second.conn ∧
        (first.after.world.account second.conn).opened = false ∧
        (second.before.world.account second.conn).isOpen = true ∧
        t.world.actions = second.after.world.actions ∧
        (second.IsLost → ∃ e, second.result = .error e ∧ outcome = .fail e.message true)) ∧
      t.world.tally.lookups ≤ s.world.tally.lookups +
        (if s.manager.state = .connected then 1 else 2) * sc.config.backoff.maxAttempts := by
  intro s
  have hconsistent : s.Consistent := sc.consistent_after operations
  have hconfig : s.manager.config = sc.config := (sc.reaches_after operations).config_eq
  have hlinked : s.Linked := sc.linked_after operations
  -- What is true of the channel is known now; how it was reached is of no more interest.
  clear_value s
  rcases hexecute : s.execute command with ⟨outcome, t⟩
  refine ⟨outcome, t, ?_⟩
  rcases execute_cases command hlinked with ⟨e, -, heq⟩ | ⟨frame, trips, hencode, hcourse⟩
  · rw [hexecute] at heq
    cases heq
    refine ⟨[], [], rfl, by simp, by simp, by simp, by simp, by simp, ?_, Nat.le_add_right _ _⟩
    intro first second hpair
    cases hpair
  · rw [hexecute] at hcourse
    have hframe := Frame.ne_nil_of_encode hencode
    have hreached := hcourse.reaches_before (P := fun _ => True) trivial hframe
    have hlookups := hcourse.lookups_le hframe
    refine ⟨frame, trips, rfl, fun _ => hencode, hcourse.length_le, hcourse.offers_eq hframe,
      fun first hfirst => hcourse.ensureLink_eq hfirst, ?_, ?_, ?_⟩
    · intro trip hmem
      have htrip := (hreached trip hmem).2
      exact ⟨htrip, htrip.attempt_eq hframe, hcourse.actions_eq trip hmem⟩
    · rintro first second rfl
      exact hcourse.second_cases hframe hconsistent
    · rw [hconfig] at hlookups
      simp only [maxResends] at hlookups
      split at hlookups
      · rw [if_pos ‹_›]
        omega
      · rw [if_neg ‹_›]
        omega

end Scenario

end CommandChannel
