import CommandChannel.Proofs.Moves

/-!
# Invariants of managers

Operations are put together from a few parts: what a manager tells and counts, changes of its state
other than to a connection, the end of a connection, attempts to open one, and round trips. What all
these parts keep holds after every operation, and after every run.
-/

namespace CommandChannel

namespace Channel

/-- What is kept by the parts of which operations are made. -/
structure Stable (I : Channel → Prop) : Prop where
  /-- Something is told to those who watch. -/
  tell : ∀ {s : Channel} (notice : Notice), I s → I (s.tell notice)
  /-- The statistics change, and nothing else does. -/
  count : ∀ {s : Channel} (f : Stats → Stats), I s → I (s.count f)
  /-- The state changes to one without a connection. -/
  change : ∀ {s : Channel} {next : LinkState}, next.isConnected = false → I s →
    I (s.transition next)
  /-- The connection is given up. -/
  close : ∀ {s : Channel}, I s → I s.closeLink
  /-- The manager sleeps before an attempt. -/
  sleep : ∀ {s : Channel} (span : Duration), I s → I { s with world := s.world.sleep span }
  /-- Time passes while nothing is asked of the manager. -/
  wait : ∀ {s : Channel} (span : Duration), I s → I { s with world := s.world.wait span }
  /-- The number of failed attempts is noted. -/
  settle : ∀ {s : Channel} (made : Nat), I s → I (s.settle made)
  /-- The monitor is told to end. -/
  stop : ∀ {s : Channel}, I s → I s.stopHeartbeat.2
  /-- The closing frame is offered to the peer. -/
  farewell : ∀ {s : Channel}, I s → I s.sendClose
  /-- A connection is opened or cannot be; there is none while it is tried. -/
  opening : ∀ {s : Channel}, s.manager.state ≠ .connected → I s → I s.openLink.2
  /-- A frame is sent and its reply awaited, whatever comes of it. -/
  trip : ∀ {s : Channel} (frame : List UInt8), I s → I (s.roundTrip frame).2

namespace Stable

variable {I : Channel → Prop} (hI : Stable I) {s t : Channel}
include hI

/-- What the parts keep is kept by the failure of a connection. -/
theorem fail (hs : I s) : I s.fail := hI.change rfl (hI.count _ (hI.close hs))

/-- What the parts keep is kept by a pause before an attempt. -/
theorem pause (number : Nat) (span : Duration) (hs : I s) : I (s.pause number span) :=
  hI.sleep span (hI.tell _ hs)

/-- What the parts keep is kept by a request to connect, whether it is granted, refused or not
needed. -/
theorem connect (hs : I s) : I s.connect.2 := by
  unfold Channel.connect
  split
  · exact hI.tell _ hs
  · have hbegun : I (s.transition .connecting) := hI.change rfl hs
    have hopened := hI.opening (by rw [manager_transition]; nofun) hbegun
    rcases hopen : (s.transition .connecting).openLink with ⟨e | _, u⟩ <;> rw [hopen] at hopened
    · exact hI.fail (hI.count _ (hI.tell _ hopened))
    · exact hopened

/-- What the parts keep is kept by an attempt to connect again. It is made while connecting again,
and so not while connected. -/
theorem attempt (hstate : s.manager.state = .reconnecting) {done : Bool}
    (h : s.attempt = (done, t)) (hs : I s) : I t := by
  have hcounted : I (s.count Stats.recordReconnect) := hI.count _ hs
  have hopened := hI.opening (by rw [manager_count, hstate]; nofun) hcounted
  unfold Channel.attempt at h
  rcases hopen : (s.count Stats.recordReconnect).openLink with ⟨e | _, u⟩ <;>
    rw [hopen] at h hopened <;> cases h
  · exact hI.count _ (hI.tell _ hopened)
  · exact hopened

/-- What the parts keep is kept by connecting again. The loop needs the state to stay that of
connecting again between its attempts. -/
theorem reconnect {done : Bool} (h : s.reconnect = (done, t)) (hs : I s) : I t := by
  have hbegun : I (s.closeLink.transition .reconnecting) := hI.change rfl (hI.close hs)
  have hstate : (s.closeLink.transition .reconnecting).manager.state = .reconnecting := by
    rw [manager_transition]
  unfold Channel.reconnect at h
  dsimp only at h
  generalize s.closeLink.transition .reconnecting = start at hbegun hstate h
  rcases hrun : start.manager.config.backoff.run Channel.pause Channel.attempt
    start.manager.attempts start with ⟨last, made, u⟩
  obtain ⟨hu, -⟩ := run_attempt_keeps _ (fun number span hv => hI.pause number span hv)
    (fun hreconnecting hattempt hv => hI.attempt hreconnecting hattempt hv) hstate hbegun hrun
  rw [hrun] at h
  cases last <;> cases h
  · exact hI.change rfl (hI.settle made (hI.tell _ hu))
  · exact hu

/-- What the parts keep is kept by seeing to a connection. -/
theorem ensureLink {done : Bool} (h : s.ensureLink = (done, t)) (hs : I s) : I t := by
  rcases ensureLink_cases h with ⟨-, -, rfl⟩ | ⟨-, hreconnect⟩
  · exact hs
  · exact hI.reconnect hreconnect hs

section Commands

variable {frame : List UInt8} {trip : Trip} {resends : Nat} {trips : List Trip} {outcome : Outcome}

/-- What the parts keep is kept by a round trip, with whatever result. -/
theorem runs (h : trip.Runs frame) (hs : I trip.before) : I trip.after := by
  have hround := hI.trip frame hs
  rwa [h.roundTrip_eq] at hround

/-- What the parts keep is kept by what ends a command after its round trip. -/
theorem ending (h : Ending trip resends outcome t) (hs : I trip.after) : I t := by
  cases h with
  | answered => exact hs
  | timedOut => exact hI.tell _ (hI.count _ hs)
  | failed | lost => exact hI.fail (hI.tell _ hs)
  | lostForGood _ _ hreconnect => exact hI.reconnect hreconnect (hI.fail (hI.tell _ hs))

/-- What the parts keep is kept along the course of a command, by induction on its round trips. -/
theorem course (h : Course frame resends s trips outcome t) (hs : I s) : I t := by
  induction h with
  | unreachable hensure => exact hI.ensureLink hensure hs
  | ended hensure htrip hending =>
    exact hI.ending hending (hI.runs htrip (hI.ensureLink hensure hs))
  | resent hensure htrip _ hrenews _ ih =>
    obtain ⟨notice, retry, u, hreconnect, rfl⟩ := hrenews
    have hlost := hI.fail (hI.tell notice (hI.runs htrip (hI.ensureLink hensure hs)))
    exact ih (hI.tell retry (hI.reconnect hreconnect hlost))

/-- What the parts keep is kept by a command. One without a frame keeps everything. -/
theorem execute (hlinked : s.Linked) (command : Command) (hs : I s) :
    I (s.execute command).2 := by
  rcases execute_cases command hlinked with ⟨e, -, heq⟩ | ⟨frame, trips, -, hcourse⟩
  · rwa [heq]
  · exact hI.course hcourse hs

end Commands

/-- What the parts keep is kept by ending the connection on request. -/
theorem disconnect (hs : I s) : I s.disconnect.2 := by
  have hstopped := hI.stop hs
  unfold Channel.disconnect
  rcases hstopping : s.stopHeartbeat with ⟨handle, u⟩
  rw [hstopping] at hstopped
  have hclosed := hI.close (hI.farewell hstopped)
  dsimp only
  split
  · exact hI.change rfl (hI.tell _ (hI.count _ hclosed))
  · exact hI.change rfl hclosed

/-- What the parts keep is kept by every operation. There is one case for each of them. -/
theorem perform (hlinked : s.Linked) (operation : Operation) (hs : I s) :
    I (s.perform operation) := by
  cases operation with
  | connect => exact hI.connect hs
  | disconnect => exact hI.disconnect hs
  | execute command => exact hI.execute hlinked command hs
  | probe => exact hI.execute hlinked .ping hs
  | heartbeat epoch =>
    rw [Channel.perform, heartbeat]
    split
    · exact hI.execute hlinked .ping hs
    · exact hI.tell _ hs
  | wait span => exact hI.wait span hs

/-- What the parts keep is kept by every run, by induction on its operations. That a connection is
held while connected goes along. -/
theorem run (hlinked : s.Linked) (operations : List Operation) (hs : I s) :
    I (s.run operations) := by
  induction operations generalizing s with
  | nil => exact hs
  | cons operation operations ih =>
    have hreaches : Reaches (fun _ => True) s (s.perform operation) :=
      .perform hlinked fun _ _ => trivial
    exact ih (hreaches.linked hlinked) (hI.perform hlinked operation hs)

end Stable

end Channel

namespace Scenario

open Channel

/-- What holds at the beginning and is kept by the parts of operations holds after any of them. So
an invariant is proved by one fact for each part. -/
theorem stable_after (sc : Scenario) {I : Channel → Prop} (hI : Stable I) (hstart : I sc.start)
    (operations : List Operation) : I (sc.after operations) :=
  hI.run sc.linked_start operations hstart

end Scenario

end CommandChannel
