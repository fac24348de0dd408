import CommandChannel.Proofs.Clocks
import CommandChannel.Proofs.Requests

/-!
# Time without activity

A manager is active when it opens a connection and when a command is answered by its own reply.
Whatever else it does takes its time but is no activity, however many frames pass: neither what it
tells and counts, nor attempts that fail, nor the end of a connection.
-/

namespace CommandChannel

open Channel

namespace Event

/-- The manager opened a connection. -/
def isOpening : Event → Bool
  | change _ next => next.isConnected
  | _ => false

/-- A command was answered by its own reply. -/
def isAnswer : Event → Bool
  | answered => true
  | _ => false

/-- The event counts as activity. -/
def isActivity (event : Event) : Bool := event.isOpening || event.isAnswer

/-- The search for a connection is no activity; only its success is, and that is a change of the
state. -/
theorem isActivity_of_isDialing {event : Event} (h : event.isDialing = true) :
    event.isActivity = false := by
  cases event with
  | dial | lookup | opened | closed => rfl
  | _ => cases h

/-- A frame on its way is no activity, whether all of it leaves or not. -/
theorem isActivity_of_isTransfer {event : Event} (h : event.isTransfer = true) :
    event.isActivity = false := by
  cases event with
  | offered | write | sent => rfl
  | _ => cases h

end Event

namespace World

/-- When something of a kind happened for the last time. -/
def last? (kind : Event → Bool) (w : World) : Option Duration :=
  (w.history.find? (kind ·.event)).map Entry.time

/-- An event of the kind that was just recorded happened last at this moment. -/
theorem last?_record_of_true {kind : Event → Bool} {event : Event} (h : kind event = true)
    (w : World) : (w.record event).last? kind = some w.now := by
  simp [last?, record, h]

/-- An event of another kind does not change when something happened for the last time. -/
theorem last?_record_of_false {kind : Event → Bool} {event : Event} (h : kind event = false)
    (w : World) : (w.record event).last? kind = w.last? kind := by
  simp [last?, record, h]

/-- Time passed between two worlds without any activity. -/
structure Idles (w w' : World) : Prop where
  now_le : w.now ≤ w'.now
  grows : w.Grows (Event.isActivity · = false) w'

section Idles

variable {u v w : World}

/-- No time passes between a world and itself, and nothing happens. -/
theorem Idles.refl (w : World) : w.Idles w := ⟨w.now.le_refl, .refl w⟩

/-- One idle time may follow another. The later one begins where the earlier one has ended. -/
theorem Idles.trans (huv : u.Idles v) (hvw : v.Idles w) : u.Idles w :=
  ⟨Duration.le_trans huv.now_le hvw.now_le, huv.grows.trans hvw.grows⟩

/-- If only the time changed, and not backwards, it was an idle time. -/
theorem Idles.of_history_eq (hnow : v.now ≤ w.now) (hhistory : w.history = v.history) :
    v.Idles w := ⟨hnow, .of_history_eq hhistory⟩

/-- An event that is no activity does not end an idle time. -/
theorem Idles.record (h : v.Idles w) {event : Event} (hevent : event.isActivity = false) :
    v.Idles (w.record event) := ⟨h.now_le, h.grows.record hevent⟩

/-- What counts as activity happened for the last time when it did before. This is the use of idle
times: both dates of a manager survive them. -/
theorem Idles.last?_eq (h : v.Idles w) {kind : Event → Bool}
    (hkind : ∀ event, kind event = true → event.isActivity = true) :
    w.last? kind = v.last? kind := by
  obtain ⟨later, hhistory, hlater⟩ := h.grows
  have hnone : later.find? (kind ·.event) = none := by
    rw [List.find?_eq_none]
    intro entry hmem hentry
    exact Bool.false_ne_true ((hlater entry hmem).symm.trans (hkind _ hentry))
  unfold last?
  rw [hhistory, List.find?_append, hnone, Option.none_or]

/-- Time that is spent waiting is idle, although the sleep is noted in the history. -/
theorem idles_sleep (span : Duration) (w : World) : w.Idles (w.sleep span) := by
  have hwaited : w.Idles (w.wait span) := .of_history_eq (w.now.le_add span) rfl
  exact hwaited.record rfl

/-- Starting a thread is no activity, whether it starts or not. -/
theorem idles_spawn (epoch : Nat) (interval : Duration) (w : World) :
    w.Idles (w.spawn epoch interval).2 := by
  unfold spawn
  split
  · exact .of_history_eq w.now.le_refl rfl
  · refine Idles.record (Idles.record ?_ rfl) rfl
    exact .of_history_eq w.now.le_refl rfl

end Idles

end World

namespace Channel

/-- Time passed between two channels without any activity. -/
structure Idles (s t : Channel) : Prop where
  activity_eq : t.manager.lastActivity = s.manager.lastActivity
  world : s.world.Idles t.world

section Idles

variable {s t u : Channel}

/-- One idle time of a channel may follow another, and the manager kept its date in both. -/
theorem Idles.trans (hst : s.Idles t) (htu : t.Idles u) : s.Idles u :=
  ⟨htu.activity_eq.trans hst.activity_eq, hst.world.trans htu.world⟩

variable (s)

/-- Recording an event that is no activity leaves a channel idle. -/
theorem idles_record {event : Event} (h : event.isActivity = false) : s.Idles (s.record event) :=
  ⟨rfl, (World.Idles.refl _).record h⟩

/-- Telling something to watchers is no activity, whatever they are told. -/
theorem idles_tell (notice : Notice) : s.Idles (s.tell notice) := s.idles_record rfl

/-- Counting is no activity, and the date of the last one is not among what is counted. -/
theorem idles_count (f : Stats → Stats) : s.Idles (s.count f) := ⟨rfl, .refl _⟩

/-- Setting the number of replies that are owed is no activity. -/
theorem idles_owe (late : Nat) : s.Idles (s.owe late) := ⟨rfl, .refl _⟩

/-- Setting the number of attempts that failed is no activity, as no event goes with it. -/
theorem idles_settle (made : Nat) : s.Idles (s.settle made) := ⟨rfl, .refl _⟩

/-- A channel that spends time waiting is idle. This is the pause between attempts. -/
theorem idles_sleep (span : Duration) : s.Idles { s with world := s.world.sleep span } :=
  ⟨rfl, World.idles_sleep span s.world⟩

/-- A channel for which time passes is idle. This is the time between operations. -/
theorem idles_wait (span : Duration) : s.Idles { s with world := s.world.wait span } :=
  ⟨rfl, .of_history_eq (s.world.now.le_add span) rfl⟩

/-- A pause before an attempt is idle time, with what is told of it before. -/
theorem idles_pause (attempt : Nat) (span : Duration) : s.Idles (s.pause attempt span) :=
  (s.idles_tell _).trans (idles_sleep _ span)

/-- A change of the state to another one is recorded, and nothing else happens to the world. -/
theorem world_transition_of_ne {next : LinkState} (h : s.manager.state ≠ next) :
    (s.transition next).world = s.world.record (.change s.manager.state next) := by
  unfold transition
  simp only [if_neg h]
  rfl

/-- Going over to a state other than that of a connection is no activity. For a change of the state
is activity exactly if it leads there. -/
theorem idles_transition {next : LinkState} (h : next.isConnected = false) :
    s.Idles (s.transition next) := by
  refine ⟨by rw [manager_transition], ?_⟩
  unfold transition
  simp only
  split
  · exact .refl _
  · exact (World.Idles.refl _).record (by rw [Event.isActivity, Event.isOpening, h]; rfl)

/-- Giving the connection up is no activity, although it is shut down for that. -/
theorem idles_closeLink : s.Idles s.closeLink := by
  refine ⟨by rw [manager_closeLink], ?_⟩
  unfold closeLink
  split
  · exact .refl _
  · exact ((World.Idles.refl _).record rfl).record rfl

/-- The failure of a connection is no activity: it is given up and the state changes, but to no
connection. -/
theorem idles_fail : s.Idles s.fail :=
  (s.idles_closeLink.trans (idles_count _ _)).trans (idles_transition _ rfl)

/-- Looking up the peer and connecting to it is no activity, even if it makes a connection. It is
the manager's taking it over that counts. -/
theorem idles_dial : s.Idles s.dial.2 := by
  refine ⟨by rw [manager_dial], ?_⟩
  have hlookup : s.world.Idles (s.world.lookUp s.manager.config.host) :=
    ⟨s.world.now.le_refl, (World.Grows.refl _).lookUp rfl⟩
  unfold dial
  simp only
  split
  · exact hlookup
  · rename_i addrs _
    have hconnected := Link.connectAfter_world (.io Link.noAddress) s.manager.config.ioTimeout addrs
      (s.world.lookUp s.manager.config.host)
    exact hlookup.trans ⟨Link.now_le_connect _ _ _,
      hconnected.1.mono fun _ => Event.isActivity_of_isDialing⟩

/-- Seeing to the monitor is no activity, whether one is started or not. -/
theorem idles_ensureHeartbeat : s.Idles s.ensureHeartbeat := by
  have hmanager : s.ensureHeartbeat.manager.lastActivity = s.manager.lastActivity := by
    obtain ⟨_, _, hmanager, -⟩ := s.manager_ensureHeartbeat
    rw [hmanager]
  refine ⟨hmanager, ?_⟩
  unfold ensureHeartbeat
  split
  · exact .refl _
  · exact .refl _
  · rename_i interval _ _
    have hspawned := World.idles_spawn s.manager.epoch interval s.world
    split <;> rename_i heq <;> rw [heq] at hspawned
    · exact hspawned
    · exact hspawned.record rfl

/-- Sending a frame is no activity; only its answer is. So a peer that never answers stays idle. -/
theorem idles_sendFrame (frame : List UInt8) : s.Idles (s.sendFrame frame).2 := by
  have hmanager : (s.sendFrame frame).2.manager.lastActivity = s.manager.lastActivity := by
    obtain ⟨_, _, _, hmanager⟩ := s.manager_sendFrame frame
    rw [hmanager]
  refine ⟨hmanager, ?_⟩
  unfold sendFrame
  split
  · exact .refl _
  · rename_i link _
    have hwritten : s.world.Idles (link.writeEncoded frame s.world).2.2 :=
      ⟨link.now_le_writeEncoded frame s.world,
        (link.writeEncoded_world frame s.world).1.mono fun _ => Event.isActivity_of_isTransfer⟩
    split <;> rename_i heq <;> rw [heq] at hwritten
    · exact hwritten
    · exact hwritten.record rfl

/-- Reading a reply is no activity by itself, as it may be a late one. -/
theorem idles_readReply : s.Idles s.readReply.2 := by
  have hmanager : s.readReply.2.manager.lastActivity = s.manager.lastActivity := by
    obtain ⟨_, _, hmanager⟩ := s.manager_readReply
    rw [hmanager]
  refine ⟨hmanager, ?_⟩
  unfold readReply
  split
  · exact .refl _
  · rename_i link _
    have hlater := link.now_le_read Response.ofBytes s.world
    obtain ⟨result, inbound, now, hread⟩ := link.read_eq Response.ofBytes s.world
    rw [hread] at hlater ⊢
    have hpassed : s.world.Idles { s.world with now } := .of_history_eq hlater rfl
    cases result with
    | error _ => exact hpassed
    | ok _ => exact hpassed.record rfl

/-- Stopping the monitor is no activity, as it concerns no connection. -/
theorem idles_stopHeartbeat : s.Idles s.stopHeartbeat.2 := by
  refine ⟨by rw [s.stopHeartbeat_eq.1], ?_⟩
  unfold stopHeartbeat
  split
  · exact .refl _
  · rename_i handle _
    have htold : s.world.Idles (s.world.tell (.heartbeatStopping handle.epoch)) :=
      (World.Idles.refl _).record rfl
    exact htold.trans (.of_history_eq (Duration.le_refl _) rfl)

/-- Offering the closing frame is no activity, as no answer to it is waited for. -/
theorem idles_sendClose : s.Idles s.sendClose := by
  have hmanager : s.sendClose.manager.lastActivity = s.manager.lastActivity := by
    obtain ⟨_, hmanager⟩ := s.manager_sendClose
    rw [hmanager]
  refine ⟨hmanager, ?_⟩
  unfold sendClose
  split
  · exact .refl _
  · rename_i link _
    split
    · have hwritten : s.world.Idles (link.write (.command .close) s.world).2.2 :=
        ⟨link.now_le_write (.command .close) s.world,
          (link.write_world (.command .close) s.world).1.mono fun _ =>
            Event.isActivity_of_isTransfer⟩
      rcases hwrite : link.write (.command .close) s.world with ⟨_ | _, link', w⟩ <;>
        rw [hwrite] at hwritten
      · exact hwritten.record rfl
      · exact hwritten
    · exact .refl _

/-- Ending the connection is no activity, from whatever state it is ended. -/
theorem idles_disconnect : s.Idles s.disconnect.2 := by
  have hstopped := s.idles_stopHeartbeat
  unfold disconnect
  rcases hstopping : s.stopHeartbeat with ⟨handle, u⟩
  rw [hstopping] at hstopped
  have hclosed := (hstopped.trans u.idles_sendClose).trans (idles_closeLink _)
  dsimp only
  split
  · exact ((hclosed.trans (idles_count _ _)).trans (idles_tell _ _)).trans (idles_transition _ rfl)
  · exact hclosed.trans (idles_transition _ rfl)

end Idles

section Failures

variable {s t : Channel}

/-- An attempt to open a connection that fails is no activity. -/
theorem Idles.of_openLink {e : ChannelError} (h : s.openLink = (.error e, t)) : s.Idles t := by
  have hdialed := s.idles_closeLink.trans s.closeLink.idles_dial
  unfold openLink at h
  rcases hdial : s.closeLink.dial with ⟨_ | _, u⟩ <;> rw [hdial] at h hdialed <;> cases h
  exact hdialed

/-- A request to connect that is not granted is no activity, for all that it told and counted. -/
theorem Idles.of_connect (h : s.connect = (false, t)) : s.Idles t := by
  have hbegun : s.Idles (s.transition .connecting) := s.idles_transition rfl
  unfold connect at h
  split at h
  · cases h
  · rcases hopen : (s.transition .connecting).openLink with ⟨e | _, u⟩ <;> rw [hopen] at h <;>
      cases h
    have hfailed := hbegun.trans (.of_openLink hopen)
    exact ((hfailed.trans (idles_tell _ _)).trans (idles_count _ _)).trans (idles_fail _)

/-- A manager that is connected already does nothing to be so. -/
theorem Idles.of_connected (h : s.manager.state = .connected) : s.Idles s.connect.2 := by
  rw [connect_of_connected h]
  exact s.idles_tell _

/-- An attempt to connect again that fails is no activity, for all that it told and counted. -/
theorem Idles.of_attempt (h : s.attempt = (false, t)) : s.Idles t := by
  unfold attempt at h
  rcases hopen : (s.count Stats.recordReconnect).openLink with ⟨e | _, u⟩ <;> rw [hopen] at h <;>
    cases h
  have hfailed := (s.idles_count _).trans (.of_openLink hopen)
  exact (hfailed.trans (idles_tell _ _)).trans (idles_count _ _)

/-- Connecting again without success is no activity, however many attempts and pauses it took. The
induction is on the budget that is left. -/
theorem Idles.of_reconnect (h : s.reconnect = (false, t)) : s.Idles t := by
  have hbegun : s.Idles (s.closeLink.transition .reconnecting) :=
    s.idles_closeLink.trans (idles_transition _ rfl)
  unfold reconnect at h
  dsimp only at h
  generalize s.closeLink.transition .reconnecting = start at hbegun h
  rcases Backoff.run_cases start.manager.config.backoff pause attempt (fun _ u => s.Idles u)
    (fun _ u _ _ hu hattempt => (hu.trans (u.idles_pause _ _)).trans (.of_attempt hattempt)) hbegun
    with ⟨before, u, v, -, -, -, hrun⟩ | ⟨all, u, -, hu, hrun⟩
  · rw [hrun] at h
    cases h
  · rw [hrun] at h
    cases h
    have htold := hu.trans (u.idles_tell (.gaveUp start.manager.config.backoff.maxAttempts))
    have hsettled := htold.trans (idles_settle _ all)
    exact hsettled.trans (idles_transition _ rfl)

/-- A monitor of an earlier epoch has no say, and what it asks for is no activity. -/
theorem Idles.of_stale {epoch : Nat} (h : s.manager.epoch ≠ epoch) :
    s.Idles (s.heartbeat epoch).2 := by
  rw [heartbeat, if_neg h]
  exact s.idles_tell _

end Failures

end Channel

end CommandChannel
