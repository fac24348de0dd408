import CommandChannel.Channel.Disconnect
import CommandChannel.Proofs.Reconnecting
import CommandChannel.Proofs.Writing

/-!
# Ending a connection

Whatever state a manager is in, it ends a connection by stopping the monitor, offering the closing
frame to the connection if there is one in use, and giving the connection up.
-/

namespace CommandChannel

/-- The announcement of the end always has a frame, as its text is short and fixed. -/
theorem Frame.exists_encode_close : ∃ frame, encode (.command .close) = .ok frame := ⟨_, rfl⟩

namespace Channel

/-- A connection was ended on request between two channels. If it was in use, the closing frame was
offered to it before it was given up, and may have left in part. -/
structure Disconnects (s t : Channel) : Prop where
  /-- The manager is at rest, and the next epoch began. -/
  manager_eq : ∃ stats, t.manager =
    { s.manager with
      state := .disconnected, published := .disconnected, link := none, heartbeat := none,
      epoch := s.manager.epoch + 1, stats }
  /-- No connection was made. -/
  made_eq : t.world.made = s.world.made
  /-- Nothing but the end is noted of any connection, or a part of the closing frame was taken
  by the one that was in use. -/
  account_cases : (∀ c, t.world.account c = s.closeLink.world.account c) ∨
    ∃ link frame taken, s.manager.link = some link ∧
      Frame.encode (.command .close) = .ok frame ∧ taken <+: frame ∧
      ∀ c, t.world.account c =
        if link.number = c then (((s.world.account c).offer frame).take taken).finish
        else s.world.account c

/-- A connection that was ended on request is held no longer. -/
theorem Disconnects.link_eq {s t : Channel} (h : s.Disconnects t) : t.manager.link = none := by
  obtain ⟨_, hmanager⟩ := h.manager_eq
  rw [hmanager]

/-- Stopping the monitor begins a new epoch and concerns no connection. This is so also if there is
no monitor. -/
theorem stopHeartbeat_eq (s : Channel) :
    s.stopHeartbeat.2.manager =
        { s.manager with epoch := s.manager.epoch + 1, heartbeat := none } ∧
      s.world.SameTraffic s.stopHeartbeat.2.world := by
  unfold stopHeartbeat
  split
  · exact ⟨rfl, .refl _⟩
  · exact ⟨rfl, rfl, fun _ => rfl, rfl⟩

section SendClose

variable {s : Channel}

/-- Only a connection that is in use is told: in any other state nothing is offered. -/
theorem sendClose_of_not_connected (h : s.manager.state ≠ .connected) : s.sendClose = s := by
  unfold sendClose
  split
  · rfl
  · rw [if_neg (mt LinkState.isConnected_iff.1 h)]

/-- The connection in use is offered the closing frame, and takes some beginning of it. No reply is
owed for it. -/
theorem sendClose_of_connected {link : Link} {frame : List UInt8}
    (hstate : s.manager.state = .connected) (hlink : s.manager.link = some link)
    (hencode : Frame.encode (.command .close) = .ok frame) :
    ∃ link' taken, s.sendClose.manager = { s.manager with link := some link' } ∧
      link.Writes frame taken s.world link' s.sendClose.world := by
  obtain ⟨taken, hwrites⟩ := link.writes_of_encode hencode s.world
  unfold sendClose
  simp only [hlink, if_pos (LinkState.isConnected_iff.2 hstate)]
  rcases hwrite : link.write (.command .close) s.world with ⟨_ | _, link', w⟩ <;>
    rw [hwrite] at hwrites
  · exact ⟨link', taken, rfl, hwrites.taken_prefix, hwrites.number_eq, hwrites.accepted_eq,
      hwrites.made_eq, hwrites.account_eq, hwrites.tally_eq⟩
  · exact ⟨link', taken, rfl, hwrites⟩

/-- Offering the closing frame changes the connection and what it took, or nothing. -/
theorem sendClose_cases (s : Channel) :
    (s.sendClose.manager = s.manager ∧ s.world.SameTraffic s.sendClose.world) ∨
    ∃ link link' frame taken, s.manager.link = some link ∧
      Frame.encode (.command .close) = .ok frame ∧
      s.sendClose.manager = { s.manager with link := some link' } ∧
      link.Writes frame taken s.world link' s.sendClose.world := by
  by_cases hstate : s.manager.state = .connected
  · cases hlink : s.manager.link with
    | none =>
      unfold sendClose
      rw [hlink]
      exact .inl ⟨rfl, .refl _⟩
    | some link =>
      obtain ⟨frame, hencode⟩ := Frame.exists_encode_close
      obtain ⟨link', taken, hmanager, hwrites⟩ := sendClose_of_connected hstate hlink hencode
      exact .inr ⟨link, link', frame, taken, rfl, hencode, hmanager, hwrites⟩
  · rw [sendClose_of_not_connected hstate]
    exact .inl ⟨rfl, .refl _⟩

end SendClose

/-- The channel when the monitor is stopped and the connection is given up. All that is left to do
then is to tell so and to change the state. -/
def release (s : Channel) : Channel := s.stopHeartbeat.2.sendClose.closeLink

/-- What is left of a manager that gave its connection up on request: it holds neither a connection
nor a monitor, and a new epoch has begun. -/
theorem manager_release (s : Channel) :
    s.release.manager = { s.manager with
      link := none, heartbeat := none, epoch := s.manager.epoch + 1 } := by
  obtain ⟨hstopped, -⟩ := s.stopHeartbeat_eq
  unfold release
  rw [manager_closeLink]
  rcases s.stopHeartbeat.2.sendClose_cases with ⟨hsent, -⟩ | ⟨_, _, _, _, -, -, hsent, -⟩
  · rw [hsent, hstopped]
  · rw [hsent, hstopped]

/-- Giving the connection up on request makes none. The closing frame goes over the one that is
there. -/
theorem made_release (s : Channel) : s.release.world.made = s.world.made := by
  obtain ⟨-, hquiet⟩ := s.stopHeartbeat_eq
  unfold release
  rw [made_closeLink]
  rcases s.stopHeartbeat.2.sendClose_cases with ⟨-, hworld⟩ | ⟨_, _, _, _, -, -, -, hwrites⟩
  · rw [hworld.made_eq, hquiet.made_eq]
  · rw [hwrites.made_eq, hquiet.made_eq]

/-- The connection that is given up took a beginning of the closing frame, or was not in use. -/
theorem account_release_cases (s : Channel) :
    (∀ c, s.release.world.account c = s.closeLink.world.account c) ∨
    ∃ link frame taken, s.manager.link = some link ∧
      Frame.encode (.command .close) = .ok frame ∧ taken <+: frame ∧
      ∀ c, s.release.world.account c =
        if link.number = c then (((s.world.account c).offer frame).take taken).finish
        else s.world.account c := by
  obtain ⟨hstopped, hquiet⟩ := s.stopHeartbeat_eq
  have hlink : s.stopHeartbeat.2.manager.link = s.manager.link := by rw [hstopped]
  unfold release
  rcases s.stopHeartbeat.2.sendClose_cases with
    ⟨hsent, hworld⟩ | ⟨link, link', frame, taken, hstill, hencode, hsent, hwrites⟩
  · left
    have hstopping := sameTraffic_closeLink hlink hquiet
    have hclosing := sameTraffic_closeLink (congrArg Manager.link hsent) hworld
    intro c
    rw [hclosing.account_eq, hstopping.account_eq]
  · refine .inr ⟨link, frame, taken, hlink ▸ hstill, hencode, hwrites.taken_prefix, fun c => ?_⟩
    have hsent_link : s.stopHeartbeat.2.sendClose.manager.link = some link' := by rw [hsent]
    rw [account_closeLink hsent_link, hwrites.number_eq, hwrites.account_eq, hquiet.account_eq]
    by_cases hc : link.number = c
    · simp only [if_pos hc]
    · simp only [if_neg hc]

/-- When the connection is given up, this is told and counted unless there was nothing to end, and
the state changes. -/
theorem disconnect_cases (s : Channel) :
    s.disconnect.2 = s.release.transition .disconnected ∨
      ∃ f notice, s.disconnect.2 =
        ((s.release.count f).tell notice).transition .disconnected := by
  unfold disconnect release
  rcases s.stopHeartbeat with ⟨handle, u⟩
  dsimp only
  split
  · exact .inr ⟨_, _, rfl⟩
  · exact .inl rfl

/-- Ending the connection on request stops the monitor, offers the closing frame to a connection in
use, and gives the connection up. -/
theorem disconnects_disconnect (s : Channel) : s.Disconnects s.disconnect.2 := by
  have hmanager := s.manager_release
  have hmade := s.made_release
  have haccount := s.account_release_cases
  rcases s.disconnect_cases with heq | ⟨f, notice, heq⟩
  · refine ⟨⟨s.manager.stats, ?_⟩, ?_, ?_⟩
    · rw [heq, manager_transition, hmanager]
    · rw [heq, made_transition, hmade]
    · simpa only [heq, account_transition] using haccount
  · refine ⟨⟨f s.manager.stats, ?_⟩, ?_, ?_⟩
    · rw [heq, manager_transition, manager_tell, manager_count, hmanager]
    · rw [heq, made_transition, world_tell, World.made_tell, world_count, hmade]
    · simpa only [heq, account_transition, world_tell, World.account_tell, world_count]
        using haccount

end Channel

end CommandChannel
