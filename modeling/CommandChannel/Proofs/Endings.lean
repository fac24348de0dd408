import CommandChannel.Proofs.Monitors
import CommandChannel.Proofs.Sessions

/-!
# The end of a connection

Whatever state a manager is in, ending the connection brings it to one and the same end: it is
disconnected, without a connection and without a monitor. Neither a failure to announce the end nor
what monitors do meanwhile makes a difference to that. To end the connection once more does nothing
but begin another epoch.
-/

namespace CommandChannel

open Channel

/-- A manager whose connection was ended at a moment. -/
def Manager.ended (moment : Duration) (m : Manager) : Manager :=
  { m with
    state := .disconnected, published := .disconnected, link := none, heartbeat := none
    epoch := m.epoch + 1
    stats := { m.stats with
      lastDisconnected :=
        if m.state = .disconnected then m.stats.lastDisconnected else some moment } }

namespace Channel

/-- What is done towards the peer until a world when the connection is ended: the closing frame is
offered to the connection in use, which takes a beginning of it and is given up. Nothing is done
where there is none. -/
inductive Farewell (s : Channel) (w : World) : Prop
  | told {link : Link} {frame taken : List UInt8}
      (hstate : s.manager.state = .connected) (hlink : s.manager.link = some link)
      (hencode : Frame.encode (.command .close) = .ok frame) (htaken : taken <+: frame)
      (hmade : w.made = s.world.made)
      (htally : w.tally = s.world.tally.offer link.number frame)
      (haccount : ∀ c, w.account c =
        if link.number = c then (((s.world.account c).offer frame).take taken).finish
        else s.world.account c)
  | silent (hstate : s.manager.state ≠ .connected) (htraffic : s.world.SameTraffic w)

section Disconnect

variable {s : Channel}

/-- A quiet time may follow. It is part of the farewell then, as nothing happens in it. -/
theorem Farewell.trans {w w' : World} (h : s.Farewell w) (hquiet : w.SameTraffic w') :
    s.Farewell w' := by
  cases h with
  | told hstate hlink hencode htaken hmade htally haccount =>
    exact .told hstate hlink hencode htaken (hquiet.made_eq.trans hmade)
      (hquiet.tally_eq.trans htally) fun c => (hquiet.account_eq c).trans (haccount c)
  | silent hstate htraffic => exact .silent hstate (htraffic.trans hquiet)

/-- A quiet time may have gone before, with the same manager at its end. -/
theorem Farewell.of_before {u : Channel} {w : World} (h : u.Farewell w)
    (hmanager : u.manager = s.manager) (hquiet : s.world.SameTraffic u.world) : s.Farewell w := by
  obtain ⟨manager, world⟩ := u
  cases hmanager
  cases h with
  | told hstate hlink hencode htaken hmade htally haccount =>
    refine .told hstate hlink hencode htaken (hmade.trans hquiet.made_eq) ?_ ?_
    · rw [htally, hquiet.tally_eq]
    · intro c
      rw [haccount, hquiet.account_eq]
  | silent hstate htraffic => exact .silent hstate (hquiet.trans htraffic)

/-- What is done towards the peer before the connection is given up. That the manager agrees with
its state is needed here: it holds a connection exactly while it is connected. -/
theorem farewell_release (hsettled : s.manager.Settled) : s.Farewell s.release.world := by
  obtain ⟨hstopped, hquiet⟩ := s.stopHeartbeat_eq
  have hlink : s.stopHeartbeat.2.manager.link = s.manager.link := by rw [hstopped]
  have hstate : s.stopHeartbeat.2.manager.state = s.manager.state := by rw [hstopped]
  unfold release
  by_cases hconnected : s.manager.state = .connected
  · obtain ⟨link, hcurrent⟩ := Option.isSome_iff_exists.1 (hsettled.isSome_link.2 hconnected)
    obtain ⟨frame, hencode⟩ := Frame.exists_encode_close
    obtain ⟨link', taken, hmanager, hwrites⟩ := sendClose_of_connected (hstate.trans hconnected)
      (hlink.trans hcurrent) hencode
    have hsent : s.stopHeartbeat.2.sendClose.manager.link = some link' := by rw [hmanager]
    refine .told hconnected hcurrent hencode hwrites.taken_prefix ?_ ?_ ?_
    · rw [made_closeLink, hwrites.made_eq, hquiet.made_eq]
    · rw [tally_closeLink, hwrites.tally_eq, hquiet.tally_eq]
    · intro c
      rw [account_closeLink hsent, hwrites.number_eq, hwrites.account_eq, hquiet.account_eq]
      split <;> rfl
  · have hnone : s.manager.link = none :=
      Option.not_isSome_iff_eq_none.1 (mt hsettled.isSome_link.1 hconnected)
    rw [sendClose_of_not_connected (hstate ▸ hconnected), closeLink_of_none (hlink.trans hnone)]
    exact .silent hconnected hquiet

/-- Ending a connection tells the peer if there is a connection in use, and does nothing else
towards the peer. -/
theorem farewell_disconnect (hsettled : s.manager.Settled) : s.Farewell s.disconnect.2.world := by
  have hrelease := farewell_release hsettled
  rcases s.disconnect_cases with heq | ⟨f, notice, heq⟩
  · rw [heq]
    exact hrelease.trans (sameTraffic_transition _ _)
  · rw [heq]
    refine hrelease.trans (.trans ?_ (sameTraffic_transition _ _))
    exact s.release.world.sameTraffic_tell notice

/-- If none but a manager that is not disconnected holds a monitor, the end is counted and told
unless there was nothing to end. -/
theorem disconnect_eq
    (hheld : ∀ handle, s.manager.heartbeat = some handle → s.manager.state ≠ .disconnected) :
    s.disconnect.2 =
      (if s.manager.state = .disconnected then s.release
        else (s.release.count (Stats.recordDisconnect s.release.now)).tell
          (.disconnected s.manager.config.endpoint)).transition .disconnected := by
  have hconfig : s.release.manager.config = s.manager.config := by rw [manager_release]
  have hhandle : s.stopHeartbeat.1 = s.manager.heartbeat := by
    unfold stopHeartbeat
    split <;> rename_i h <;> rw [h]
  rw [← hconfig]
  unfold disconnect release
  generalize s.stopHeartbeat = stopped at hhandle ⊢
  obtain ⟨_, u⟩ := stopped
  cases hhandle
  dsimp only
  by_cases hstate : s.manager.state = .disconnected
  · have hnone : s.manager.heartbeat = none :=
      Option.eq_none_iff_forall_not_mem.2 fun handle hhandle => hheld handle hhandle hstate
    rw [if_pos hstate, if_neg]
    simp [hstate, hnone]
  · rw [if_neg hstate, if_pos (.inl hstate)]

/-- Ending a connection comes to the same end from every state, whatever its world is like. -/
theorem manager_disconnect
    (hheld : ∀ handle, s.manager.heartbeat = some handle → s.manager.state ≠ .disconnected) :
    s.disconnect.2.manager = s.manager.ended s.disconnect.2.now := by
  rw [disconnect_eq hheld, now_transition, manager_transition]
  split <;> rename_i hstate
  · rw [manager_release, Manager.ended, if_pos hstate]
  · rw [manager_tell, manager_count, manager_release, Manager.ended, if_neg hstate]
    rfl

/-- To end the connection once more does nothing but begin a new epoch. -/
theorem disconnect_of_ended {m : Manager} {moment : Duration}
    (h : s.manager = m.ended moment) :
    s.disconnect =
      (none, { s with manager := { s.manager with epoch := s.manager.epoch + 1 } }) := by
  obtain ⟨manager, world⟩ := s
  cases h
  rfl

end Disconnect

/-- Once the connection was ended, every monitor is of an earlier epoch. So none of them is of any
effect from then on. -/
theorem Fenced.stale_disconnect {s : Channel} (h : s.Fenced) :
    s.disconnect.2.manager.epoch ∉ s.disconnect.2.world.epochs := by
  have hended : s.disconnect.2.Fenced :=
    (Moves.disconnect (P := fun _ => True) (fun _ _ => trivial) trivial).keeps
      (fun _ hmove hu => hmove.fenced hu) h
  obtain ⟨_, hmanager⟩ := s.disconnects_disconnect.manager_eq
  intro hmem
  -- A monitor of the epoch that has just begun would be held, but none is.
  obtain ⟨number, hnumber⟩ := List.mem_iff_getElem?.1 hmem
  have hheld := (hended.current number).1 hnumber
  rw [hmanager] at hheld
  cases hheld

end Channel

namespace Session

/-- A monitor of another epoch asks in vain: nothing but its own phase changes. -/
theorem spares_probe (s : Session) (number : Nat) {thread : Heartbeat.Thread} (idle : Duration)
    (hstale : s.channel.manager.epoch ≠ thread.epoch) :
    s.Spares (s.probe number thread idle) := by
  have hanswer : s.channel.heartbeat thread.epoch =
      (true, s.channel.tell (.heartbeatStale thread.epoch s.channel.manager.epoch)) := if_neg hstale
  have htold : s.Spares (s.mapWorld
      (·.tell (.heartbeatStale thread.epoch s.channel.manager.epoch))) :=
    s.spares_mapWorld fun w => w.sameTraffic_tell _
  unfold probe
  rw [hanswer]
  exact htold.trans (spares_rest _ number thread)

/-- No monitor of another epoch does anything when it is woken, however it is woken. -/
theorem spares_wake (s : Session) (number : Nat)
    (hstale : s.channel.manager.epoch ∉ s.channel.world.epochs) : s.Spares (s.wake number) := by
  unfold wake
  cases hthread : s.channel.world.threads[number]? with
  | none => exact .refl s
  | some thread =>
    have hmem : thread.epoch ∈ s.channel.world.epochs :=
      List.mem_map_of_mem (List.mem_of_getElem? hthread)
    dsimp only
    cases Heartbeat.action thread.interval (if thread.stopped then .stop else .clock)
        (some s.channel.idle) with
    | finish => exact s.spares_finish _ _
    | rest => exact s.spares_rest _ _
    | probe idle =>
      dsimp only
      split
      · exact s.spares_mapWorld fun _ => .of_history_eq rfl rfl
      · exact s.spares_probe _ _ (ne_of_mem_of_not_mem hmem hstale).symm

/-- Whoever waits for the end of a monitor of another epoch waits for nothing else to happen. -/
theorem spares_join (handle : Heartbeat.Handle) (s : Session)
    (hstale : s.channel.manager.epoch ∉ s.channel.world.epochs) : s.Spares (s.join handle) := by
  obtain ⟨woken, rfl | rfl, hspares⟩ := s.exists_spares_join handle
  · exact hspares
  · exact (s.spares_wake _ hstale).trans hspares

/-- After the connection was ended, nothing more happens until the monitor has ended. -/
theorem spares_disconnect (s : Session) (hfenced : s.channel.Fenced) :
    Spares { s with channel := s.channel.disconnect.2 } s.disconnect := by
  have hstale := hfenced.stale_disconnect
  unfold disconnect
  rcases hdisconnect : s.channel.disconnect with ⟨handle, channel⟩
  rw [hdisconnect] at hstale
  cases handle with
  | none => exact .refl _
  | some handle => exact spares_join handle { s with channel } hstale

end Session

namespace Scenario

variable (sc : Scenario)

/-- Ending a connection leaves the manager disconnected, without a connection and without a monitor,
in a new epoch. All else of it stays as it was but the moment of the last disconnection, which is
that moment unless the manager was disconnected. Towards the peer no more is done than to offer the
closing frame to a connection in use and to give that up. What monitors ask for afterwards has no
effect, and to end the connection once more does nothing but begin another epoch. Moments apart, the
manager is the same however the connection takes the frame, however it is shut down and whatever
else the world is like. All of this holds as well when the end of the monitor is awaited, whatever
the monitors are doing. -/
theorem disconnect_after (operations : List Operation) :
    let s := sc.after operations
    let t := s.disconnect.2
    t.manager = s.manager.ended t.now ∧
    s.Farewell t.world ∧
    (∀ calls : List Operation, (∀ call ∈ calls, call.IsCallOf t.world.epochs) →
      t.Untouched (t.run calls)) ∧
    t.disconnect =
      (none, { t with manager := { t.manager with epoch := t.manager.epoch + 1 } }) ∧
    (∀ link outbound faults world, s.manager.link = some link →
      let other : Channel :=
        ⟨{ s.manager with link := some { link with outbound, faults } }, world⟩
      other.disconnect.2.manager = s.manager.ended other.disconnect.2.now) ∧
    ∀ threads holding, threads.map Heartbeat.Thread.epoch = s.world.epochs →
      let u := (Session.mk { s with world := { s.world with threads } } holding).disconnect
      (∃ moment, u.channel.manager = s.manager.ended moment) ∧
      s.Farewell u.channel.world ∧
      u.disconnect = { u with channel :=
        { u.channel with
          manager := { u.channel.manager with epoch := u.channel.manager.epoch + 1 } } } := by
  intro s t
  have hsettled : s.manager.Settled := (sc.consistent_after operations).settled
  have hfenced : s.Fenced := sc.fenced_after operations
  have hheld (handle : Heartbeat.Handle) (h : s.manager.heartbeat = some handle) :=
    (hsettled.heartbeat handle h).2
  have hended : t.manager = s.manager.ended t.now := manager_disconnect hheld
  refine ⟨hended, farewell_disconnect hsettled,
    fun calls hcalls => untouched_run hcalls hfenced.stale_disconnect,
    disconnect_of_ended hended, ?_, ?_⟩
  · intro link outbound faults world hlink other
    exact manager_disconnect (s := other) hheld
  · intro threads holding hthreads u
    let other : Channel := { s with world := { s.world with threads } }
    have hother : other.Fenced := by
      have hepochs : other.world.epochs = s.world.epochs := hthreads
      exact ⟨hepochs ▸ hfenced.increasing, hepochs ▸ hfenced.le_epoch, hepochs ▸ hfenced.current,
        hfenced.handle⟩
    have hspared := Session.spares_disconnect ⟨other, holding⟩ hother
    have hmanager := hspared.manager_eq.trans (manager_disconnect (s := other) hheld)
    refine ⟨⟨_, hmanager⟩, ?_, ?_⟩
    · have hfarewell : other.Farewell u.channel.world :=
        (farewell_disconnect (s := other) hsettled).trans hspared.traffic
      exact hfarewell.of_before rfl (.of_history_eq rfl rfl)
    · unfold Session.disconnect
      rw [disconnect_of_ended hmanager]

end Scenario

end CommandChannel
