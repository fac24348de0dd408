import CommandChannel.Channel.Disconnect
import CommandChannel.Proofs.RoundTrip

/-!
# How histories grow

Nothing is ever taken out of a history, so that what happened stays in it. What is done to a
connection adds events of a few kinds to it: dialing adds no frames, and writing adds nothing else.
Monitors are started only where the heartbeat is seen to, and are never forgotten.
-/

namespace CommandChannel

/-- A connection that was given up stays so, whatever event is noted after that. -/
theorem Account.closed_note {account : Account} (h : account.closed = true) (conn : Nat)
    (event : Event) : (account.note conn event).closed = true := by
  cases event with
  | closed c =>
    simp only [note]
    split
    · rfl
    · exact h
  | opened _ | offered _ _ | write _ _ | sent _ _ | received _ _ _ =>
    simp only [note]
    split <;> exact h
  | dial _ _ | sleep _ | shutdown _ | spawn _ | change _ _ | notice _ | lookup _ | answered =>
    exact h

namespace World

/-- Only events of a kind were added to the history between two worlds. -/
def Grows (P : Event → Prop) (w w' : World) : Prop :=
  ∃ later, w'.history = later ++ w.history ∧ ∀ entry ∈ later, P entry.event

/-- The event is in the history. -/
def Happened (event : Event) (w : World) : Prop := event ∈ w.history.map Entry.event

/-- The epochs of the monitors started so far, in the order in which they were started. -/
def epochs (w : World) : List Nat := w.threads.map Heartbeat.Thread.epoch

section Grows

variable {P Q : Event → Prop} {u v w : World}

/-- If the history is the same, nothing was added to it. -/
theorem Grows.of_history_eq (h : w.history = v.history) : v.Grows P w :=
  ⟨[], h, by simp⟩

/-- A history grows by nothing between a world and itself, whatever kind is asked for. -/
theorem Grows.refl (w : World) : w.Grows P w := .of_history_eq rfl

/-- What was added in two goes was added in all. So histories may be followed step by step. -/
theorem Grows.trans (huv : u.Grows P v) (hvw : v.Grows P w) : u.Grows P w := by
  obtain ⟨first, hv, hfirst⟩ := huv
  obtain ⟨second, hw, hsecond⟩ := hvw
  refine ⟨second ++ first, by rw [hw, hv, List.append_assoc], ?_⟩
  intro entry hmem
  exact (List.mem_append.1 hmem).elim (hsecond entry) (hfirst entry)

/-- What is of a kind is of every wider kind. Facts about dialing become facts about a state by
it. -/
theorem Grows.mono (h : v.Grows P w) (hPQ : ∀ event, P event → Q event) : v.Grows Q w := by
  obtain ⟨later, hw, hlater⟩ := h
  exact ⟨later, hw, fun entry hmem => hPQ _ (hlater entry hmem)⟩

/-- One more event of the kind is added when it is recorded. -/
theorem Grows.record (h : v.Grows P w) {event : Event} (hevent : P event) :
    v.Grows P (w.record event) :=
  h.trans ⟨[⟨w.now, event⟩], rfl, by simpa using hevent⟩

/-- A lookup adds itself to the history, whatever it finds. -/
theorem Grows.lookUp (h : v.Grows P w) {host : String} (hlookup : P (.lookup host)) :
    v.Grows P (w.lookUp host) := h.record hlookup

end Grows

section Happened

variable {v w : World} {event : Event}

/-- What happened in a history with one more event is that event, or happened before. -/
theorem happened_record {other : Event} :
    (w.record other).Happened event ↔ event = other ∨ w.Happened event := List.mem_cons

/-- What is not of the kind is none of what was added, so it happened if it happened before. -/
theorem Grows.happened_iff {P : Event → Prop} (h : v.Grows P w) (hevent : ¬ P event) :
    w.Happened event ↔ v.Happened event := by
  obtain ⟨later, hw, hlater⟩ := h
  unfold Happened
  rw [hw, List.map_append, List.mem_append, or_iff_right]
  intro hmem
  obtain ⟨entry, hentry, rfl⟩ := List.mem_map.1 hmem
  exact hevent (hlater entry hentry)

/-- What happened stays in the history, as nothing is ever taken out of it. -/
theorem Grows.happened {P : Event → Prop} (h : v.Grows P w) (hevent : v.Happened event) :
    w.Happened event := by
  obtain ⟨later, hw, -⟩ := h
  unfold Happened
  rw [hw, List.map_append, List.mem_append]
  exact .inr hevent

/-- A connection that is said to be given up is given up. So its account may be read off a single
event. -/
theorem closed_of_happened {conn : Nat} (h : w.Happened (.closed conn)) :
    (w.account conn).closed = true := by
  obtain ⟨entry, hmem, hevent⟩ := List.mem_map.1 h
  unfold account
  generalize w.history = history at hmem ⊢
  induction history with
  | nil => cases hmem
  | cons first rest ih =>
    rw [List.foldr_cons]
    rcases List.mem_cons.1 hmem with rfl | hmem
    · rw [hevent]
      simp [Account.note, Account.finish]
    · exact Account.closed_note (ih hmem) _ _

end Happened

end World

namespace Event

/-- The event belongs to the search for a connection. -/
def isDialing : Event → Bool
  | lookup _ | dial .. | opened _ | closed _ => true
  | _ => false

/-- The event belongs to a frame on its way to the peer. -/
def isTransfer : Event → Bool
  | offered .. | write .. | sent .. => true
  | _ => false

end Event

namespace Link

/-- One attempt to connect adds the attempt to the history, and the connection that it made. -/
theorem grows_dial (addr : SocketAddr) (limit : Duration) (w : World) :
    w.Grows (Event.isDialing · = true) (dial addr limit w).2 := by
  have hdial : w.Grows (Event.isDialing · = true) (w.record (.dial addr limit)) :=
    (World.Grows.refl w).record rfl
  unfold dial
  simp only
  split
  · exact hdial
  · split
    · exact hdial
    · split <;> exact hdial.trans (.of_history_eq rfl)
    · split
      · exact hdial.trans (.of_history_eq rfl)
      · refine World.Grows.record ?_ rfl
        exact hdial.trans (.of_history_eq rfl)

/-- An attempt to connect starts no monitor, whether it makes a connection or not. -/
theorem epochs_dial (addr : SocketAddr) (limit : Duration) (w : World) :
    (dial addr limit w).2.epochs = w.epochs := by
  unfold dial
  simp only
  split
  · rfl
  · split
    · rfl
    · split <;> rfl
    · split <;> rfl

/-- Trying addresses in turn adds no more than the attempts to the history, and starts no
monitor. -/
theorem connectAfter_world (failure : ChannelError) (limit : Duration) (addrs : List SocketAddr)
    (w : World) :
    w.Grows (Event.isDialing · = true) (connectAfter failure limit addrs w).2 ∧
      (connectAfter failure limit addrs w).2.epochs = w.epochs := by
  induction addrs generalizing failure w with
  | nil => exact ⟨.refl w, rfl⟩
  | cons addr addrs ih =>
    have hgrows := grows_dial addr limit w
    have hepochs := epochs_dial addr limit w
    unfold connectAfter
    rcases hdial : dial addr limit w with ⟨_ | link, u⟩ <;> rw [hdial] at hgrows hepochs
    · obtain ⟨hrest, hsame⟩ := ih (.connectFailed addr _) u
      exact ⟨hgrows.trans hrest, hsame.trans hepochs⟩
    · cases hsetUp : link.setUp limit with
      | ok _ =>
        simp only [hsetUp]
        exact ⟨hgrows, hepochs⟩
      | error _ =>
        simp only [hsetUp]
        exact ⟨hgrows.record rfl, hepochs⟩

/-- Writing a frame adds nothing but the frame and its bytes to the history, and starts no
monitor. -/
theorem writeEncoded_world (frame : List UInt8) (link : Link) (w : World) :
    w.Grows (Event.isTransfer · = true) (link.writeEncoded frame w).2.2 ∧
      (link.writeEncoded frame w).2.2.epochs = w.epochs := by
  have hoffered : w.Grows (Event.isTransfer · = true) (w.record (.offered link.number frame)) :=
    (World.Grows.refl w).record rfl
  unfold writeEncoded
  simp only
  unfold recordWrite
  split
  · exact ⟨hoffered.trans (.of_history_eq rfl), rfl⟩
  · refine ⟨World.Grows.record ?_ rfl, rfl⟩
    exact hoffered.trans (.of_history_eq rfl)

/-- Writing a payload adds nothing but its frame and its bytes to the history. Without a frame it
adds nothing. -/
theorem write_world (payload : Payload) (link : Link) (w : World) :
    w.Grows (Event.isTransfer · = true) (link.write payload w).2.2 ∧
      (link.write payload w).2.2.epochs = w.epochs := by
  unfold write
  split
  · exact ⟨.refl w, rfl⟩
  · rename_i frame _
    have hwritten := writeEncoded_world frame link w
    split <;> rename_i heq <;> rw [heq] at hwritten <;> exact hwritten

end Link

/-- The event may happen in a state and leaves it as it is, and no connection is shut down by it.
Frames are on their way only while the manager is connected. -/
def Event.IsSteady (state : LinkState) : Event → Prop
  | change .. | shutdown _ => False
  | offered .. | write .. | sent .. => state = .connected
  | _ => True

/-- The search for a connection may go on in any state. -/
theorem Event.isSteady_of_isDialing {state : LinkState} {event : Event}
    (h : event.isDialing = true) : event.IsSteady state := by
  cases event with
  | dial | lookup | opened | closed => trivial
  | _ => cases h

/-- A frame may be on its way while the manager is connected. -/
theorem Event.isSteady_of_isTransfer {event : Event} (h : event.isTransfer = true) :
    event.IsSteady .connected := by
  cases event with
  | offered | write | sent => rfl
  | _ => cases h

namespace World

/-- A monitor that is told to end keeps its epoch, and stays among those that were started. -/
theorem epochs_stopThread (number : Nat) (w : World) : (w.stopThread number).epochs = w.epochs := by
  apply List.ext_getElem?
  intro i
  simp only [epochs, stopThread, List.getElem?_map, List.getElem?_modify]
  cases w.threads[i]? with
  | none => rfl
  | some thread => split <;> rfl

/-- A thread does not start, or it is the last one of those started. Its number is that of the
threads before it, and its epoch the one that was asked for. -/
theorem spawn_cases (epoch : Nat) (interval : Duration) (w : World) :
    (∃ error w', w.spawn epoch interval = (.error error, w') ∧ w'.history = w.history ∧
      w'.epochs = w.epochs) ∨
    ∃ w', w.spawn epoch interval = (.ok w.epochs.length, w') ∧
      (∀ state, w.Grows (Event.IsSteady state) w') ∧ w'.epochs = w.epochs ++ [epoch] := by
  have hnumber : w.epochs.length = w.threads.length := List.length_map _
  rw [hnumber]
  unfold spawn
  split
  · exact .inl ⟨_, _, rfl, rfl, rfl⟩
  · refine .inr ⟨_, rfl, ?_, ?_⟩
    · intro state
      refine Grows.record (Grows.record ?_ trivial) trivial
      exact .of_history_eq rfl
    · exact List.map_append

end World

namespace Channel

variable (s : Channel)

/-- What may happen in a state without changing it is added to the history of a channel. -/
def Adds (t : Channel) : Prop := s.world.Grows (Event.IsSteady s.manager.state) t.world

/-- Looking up the peer and connecting to it adds the search to the history, and starts no
monitor. -/
theorem dial_world : s.Adds s.dial.2 ∧ s.dial.2.world.epochs = s.world.epochs := by
  have hlookup : s.world.Grows (Event.IsSteady s.manager.state)
      (s.world.lookUp s.manager.config.host) := .lookUp (.refl _) trivial
  unfold dial
  simp only
  split
  · exact ⟨hlookup, rfl⟩
  · rename_i addrs _
    obtain ⟨hgrows, hepochs⟩ := Link.connectAfter_world (.io Link.noAddress)
      s.manager.config.ioTimeout addrs (s.world.lookUp s.manager.config.host)
    exact ⟨hlookup.trans (hgrows.mono fun _ => Event.isSteady_of_isDialing), hepochs⟩

/-- Sending a frame adds the frame to the history, while the manager is connected. -/
theorem sendFrame_world (frame : List UInt8) (hstate : s.manager.state = .connected) :
    s.Adds (s.sendFrame frame).2 ∧ (s.sendFrame frame).2.world.epochs = s.world.epochs := by
  unfold Adds
  rw [hstate]
  unfold sendFrame
  split
  · exact ⟨.refl _, rfl⟩
  · rename_i link _
    obtain ⟨hgrows, hepochs⟩ := link.writeEncoded_world frame s.world
    have hsteady := hgrows.mono fun _ => Event.isSteady_of_isTransfer
    split <;> rename_i heq <;> rw [heq] at hsteady hepochs
    · exact ⟨hsteady, hepochs⟩
    · exact ⟨World.Grows.record hsteady rfl, hepochs⟩

/-- Reading a reply adds the reply to the history, if there is one. -/
theorem readReply_world :
    s.Adds s.readReply.2 ∧ s.readReply.2.world.epochs = s.world.epochs := by
  unfold readReply
  split
  · exact ⟨.refl _, rfl⟩
  · rename_i link _
    obtain ⟨result, inbound, now, hread⟩ := link.read_eq Response.ofBytes s.world
    rw [hread]
    have hpassed : s.world.Grows (Event.IsSteady s.manager.state) { s.world with now } :=
      .of_history_eq rfl
    cases result with
    | error _ => exact ⟨hpassed, rfl⟩
    | ok _ => exact ⟨World.Grows.record hpassed trivial, rfl⟩

/-- Offering the closing frame adds the frame to the history, while the manager is connected. -/
theorem sendClose_world :
    s.Adds s.sendClose ∧ s.sendClose.world.epochs = s.world.epochs := by
  unfold sendClose
  split
  · exact ⟨.refl _, rfl⟩
  · rename_i link _
    split
    · rename_i hstate
      have hconnected : s.manager.state = .connected := beq_iff_eq.1 hstate
      unfold Adds
      rw [hconnected]
      obtain ⟨hgrows, hepochs⟩ := link.write_world (.command .close) s.world
      have hsteady := hgrows.mono fun _ => Event.isSteady_of_isTransfer
      rcases hwrite : link.write (.command .close) s.world with ⟨_ | _, link', w⟩ <;>
        rw [hwrite] at hsteady hepochs
      · exact ⟨World.Grows.record hsteady trivial, hepochs⟩
      · exact ⟨hsteady, hepochs⟩
    · exact ⟨.refl _, rfl⟩

/-- Stopping the monitor tells so, and changes the monitor no further than that. It is not forgotten
among the threads. -/
theorem stopHeartbeat_world :
    s.Adds s.stopHeartbeat.2 ∧ s.stopHeartbeat.2.world.epochs = s.world.epochs := by
  unfold stopHeartbeat
  split
  · exact ⟨.refl _, rfl⟩
  · rename_i handle _
    have htold : s.world.Grows (Event.IsSteady s.manager.state)
        (s.world.tell (.heartbeatStopping handle.epoch)) := World.Grows.record (.refl _) trivial
    exact ⟨htold.trans (.of_history_eq rfl), World.epochs_stopThread _ _⟩

/-- A monitor is started only where none is held, and of the present epoch. -/
theorem ensureHeartbeat_world :
    s.Adds s.ensureHeartbeat ∧
      ((s.ensureHeartbeat.manager.heartbeat = s.manager.heartbeat ∧
          s.ensureHeartbeat.world.epochs = s.world.epochs) ∨
        (s.manager.heartbeat = none ∧
          s.ensureHeartbeat.manager.heartbeat = some ⟨s.manager.epoch, s.world.epochs.length⟩ ∧
          s.ensureHeartbeat.world.epochs = s.world.epochs ++ [s.manager.epoch])) := by
  unfold ensureHeartbeat
  split
  · exact ⟨.refl _, .inl ⟨rfl, rfl⟩⟩
  · exact ⟨.refl _, .inl ⟨rfl, rfl⟩⟩
  · rename_i interval _ hnone
    rcases s.world.spawn_cases s.manager.epoch interval with
      ⟨error, w, hspawn, hhistory, hepochs⟩ | ⟨w, hspawn, hgrows, hepochs⟩
    · simp only [hspawn]
      have hfailed : s.world.Grows (Event.IsSteady s.manager.state) w := .of_history_eq hhistory
      exact ⟨World.Grows.record hfailed trivial, .inl ⟨rfl, hepochs⟩⟩
    · simp only [hspawn]
      exact ⟨hgrows _, .inr ⟨hnone, rfl, hepochs⟩⟩

end Channel

end CommandChannel
