import CommandChannel.Proofs.Totals

/-!
# Balances

The figures of a channel are what it counts and what its history tells of the same. They are
balanced when both agree: every attempt to open a connection counts as a success or a failure, and
every frame that left and every reply that came back counts once, with its bytes. What a manager
does changes the figures in few ways, and each of them keeps the balance.
-/

namespace CommandChannel

/-- What a channel counts, and what its history tells. -/
structure Figures where
  /-- Connections made, as they are counted. -/
  connects : Nat
  /-- Attempts to open a connection that failed. -/
  failures : Nat
  /-- Attempts that were not the first one. -/
  reconnects : Nat
  /-- Monitors started. -/
  heartbeats : Nat
  /-- Frames of commands that were counted as sent. -/
  sent : Nat
  /-- The bytes of these frames. -/
  bytesSent : Nat
  /-- Replies that were counted as received. -/
  replies : Nat
  /-- The bytes of the frames of these replies. -/
  bytesReceived : Nat
  /-- The replies that the peer has still to send. -/
  owed : Nat
  /-- How often the peer was looked up. -/
  lookups : Nat
  /-- What the history tells of the same. -/
  totals : Totals

namespace Figures

/-- An attempt to open a connection begins. -/
def lookUp (f : Figures) : Figures := { f with lookups := f.lookups + 1 }

/-- An attempt to open a connection fails. -/
def miss (f : Figures) : Figures := { f with failures := f.failures + 1 }

/-- An attempt to open a connection succeeds. -/
def connect (f : Figures) : Figures :=
  { f with connects := f.connects + 1, owed := 0, totals := f.totals.connect }

/-- So many heartbeat monitors start. -/
def monitor (count : Nat) (f : Figures) : Figures := { f with heartbeats := f.heartbeats + count }

/-- The attempt to open a connection is not the first one. -/
def again (f : Figures) : Figures := { f with reconnects := f.reconnects + 1 }

/-- The frame of a command leaves by a connection. -/
def send (conn : Nat) (frame : List UInt8) (f : Figures) : Figures :=
  { f with
    sent := f.sent + 1
    bytesSent := f.bytesSent + frame.length
    owed := f.owed + 1
    totals := f.totals.send conn frame }

/-- A reply is read, and so many more are owed. -/
def receive (receipt : Receipt) (owed : Nat) (f : Figures) : Figures :=
  { f with
    replies := f.replies + 1
    bytesReceived := f.bytesReceived + receipt.size
    owed
    totals := f.totals.receive receipt }

/-- One attempt to open a connection counts as a success or as a failure, and only once. -/
structure CountsOnce (f : Figures) (done : Bool) (g : Figures) : Prop where
  /-- The peer was looked up once. -/
  lookups : g.lookups = f.lookups + 1
  success : done = true → g.connects = f.connects + 1 ∧ g.failures = f.failures
  failure : done = false → g.connects = f.connects ∧ g.failures = f.failures + 1

/-- What an attempt to open a connection changes: it fails, or it succeeds and may start one
monitor. -/
inductive Tries (f : Figures) : Bool → Figures → Prop where
  | miss : f.Tries false f.lookUp.miss
  | connect {count : Nat} (hcount : count ≤ 1) : f.Tries true (f.lookUp.connect.monitor count)

/-- Whatever an attempt comes to, it counts once: as a success or as a failure, and as one
lookup. -/
theorem Tries.countsOnce {f g : Figures} {done : Bool} (h : f.Tries done g) :
    f.CountsOnce done g := by
  cases h with
  | miss => exact ⟨rfl, fun hdone => (by cases hdone), fun _ => ⟨rfl, rfl⟩⟩
  | connect _ => exact ⟨rfl, fun _ => ⟨rfl, rfl⟩, fun hdone => (by cases hdone)⟩

/-- What is counted agrees with what the history tells, when a connection was requested so many
times where there was none. -/
structure Balanced (requests : Nat) (f : Figures) : Prop where
  /-- Every attempt to open a connection ends in one of two ways, and looks the peer up once. -/
  lookups : f.connects + f.failures = f.lookups
  /-- Every attempt was made on request or again. -/
  requests : f.connects + f.failures = f.reconnects + requests
  /-- What is counted as a connection was one. -/
  connections : f.connects = f.totals.connections
  /-- Every frame that left is counted, and no other. -/
  sent : f.sent = f.totals.sent.length
  bytesSent : f.bytesSent = f.totals.bytesSent
  /-- Every reply that was read is counted, and no other. -/
  replies : f.replies = f.totals.received.length
  bytesReceived : f.bytesReceived = f.totals.bytesReceived
  /-- A peer owes no more replies than it was sent commands. -/
  owed : f.replies + f.owed ≤ f.sent
  /-- No more monitors start than connections are made. -/
  heartbeats : f.heartbeats ≤ f.connects

section Balanced

variable {requests : Nat} {f : Figures}

/-- An attempt on request keeps the balance, with one more request counted. -/
theorem Balanced.tries (h : f.Balanced requests) {g : Figures} {done : Bool}
    (htries : f.Tries done g) : g.Balanced (requests + 1) := by
  have hlookups := h.lookups
  have hrequests := h.requests
  cases htries with
  | miss =>
    exact { h with
      lookups := congrArg (· + 1) hlookups
      requests := congrArg (· + 1) hrequests }
  | @connect count hcount =>
    exact { h with
      lookups := by
        change f.connects + 1 + f.failures = f.lookups + 1
        omega
      requests := by
        change f.connects + 1 + f.failures = f.reconnects + (requests + 1)
        omega
      connections := congrArg (· + 1) h.connections
      owed := Nat.le_of_add_right_le h.owed
      heartbeats := Nat.add_le_add h.heartbeats hcount }

/-- An attempt that was not requested counts apart, so that the number of requests stays as it
was. -/
theorem Balanced.again (h : f.Balanced (requests + 1)) : f.again.Balanced requests :=
  { h with
    requests := by
      have hrequests := h.requests
      change f.connects + f.failures = f.reconnects + 1 + requests
      omega }

/-- A frame that leaves is owed a reply, so that replies read and owed stay within the frames
sent. -/
theorem Balanced.send (h : f.Balanced requests) (conn : Nat) (frame : List UInt8) :
    (f.send conn frame).Balanced requests :=
  { h with
    sent := by
      rw [Figures.send, Totals.length_sent_send, h.sent]
    bytesSent := by
      rw [Figures.send, Totals.bytesSent_send, h.bytesSent]
    owed := Nat.succ_le_succ h.owed }

/-- A reply that is read was owed. One of those that are owed is taken off, and never more. -/
theorem Balanced.receive (h : f.Balanced requests) {late : Nat} (howed : f.owed = late + 1)
    (receipt : Receipt) : (f.receive receipt late).Balanced requests :=
  { h with
    replies := by
      rw [Figures.receive, Totals.length_received_receive, h.replies]
    bytesReceived := by
      rw [Figures.receive, Totals.bytesReceived_receive, h.bytesReceived]
    owed := by
      have howes := h.owed
      change f.replies + 1 + late ≤ f.sent
      omega }

end Balanced

end Figures

/-- A frame that is offered to a connection is added to the tally, whether it leaves or not. -/
theorem Link.tally_writeEncoded (frame : List UInt8) (link : Link) (w : World) :
    (link.writeEncoded frame w).2.2.tally = w.tally.offer link.number frame := by
  unfold writeEncoded
  dsimp only
  rw [tally_recordWrite]
  rfl

namespace Channel

/-- The figures of a channel. -/
def figures (s : Channel) : Figures where
  connects := s.manager.stats.connects
  failures := s.manager.stats.failures
  reconnects := s.manager.stats.reconnects
  heartbeats := s.manager.stats.heartbeats
  sent := s.manager.stats.sent
  bytesSent := s.manager.stats.bytesSent
  replies := s.manager.stats.replies
  bytesReceived := s.manager.stats.bytesReceived
  owed := s.manager.owedReplies
  lookups := s.world.tally.lookups
  totals := s.world.totals

section Quiet

variable (s : Channel)

/-- Telling something to watchers is not counted, whatever they are told. -/
@[simp] theorem figures_tell (notice : Notice) : (s.tell notice).figures = s.figures := rfl

/-- A failure to connect is counted as one, and its moment is no figure. -/
@[simp] theorem figures_count_failure (now : Duration) :
    (s.count (Stats.recordFailure now)).figures = s.figures.miss := rfl

/-- The end of a connection on request is a moment, and no figure. -/
@[simp] theorem figures_count_disconnect (now : Duration) :
    (s.count (Stats.recordDisconnect now)).figures = s.figures := rfl

/-- Giving a connection up is not counted, and what is owed on it stays counted until a new one. -/
@[simp] theorem figures_closeLink : s.closeLink.figures = s.figures := by
  unfold figures
  rw [manager_closeLink, tally_closeLink, totals_closeLink]

/-- A change to any state but the connected one is not counted. -/
theorem figures_transition {next : LinkState} (hnext : next ≠ .connected) :
    (s.transition next).figures = s.figures := by
  unfold figures
  rw [manager_transition, tally_transition, totals_transition, if_neg fun h => hnext h.2]

/-- The failure of a connection is not counted; only an attempt to connect that fails is. -/
@[simp] theorem figures_fail : s.fail.figures = s.figures := by
  have hcounted : (s.closeLink.count fun stats =>
      { stats with lastError := some s.closeLink.now }).figures = s.closeLink.figures := rfl
  unfold fail
  rw [figures_transition _ (by simp), hcounted, figures_closeLink]

/-- Stopping a monitor is not counted. Only the monitors that were started are. -/
@[simp] theorem figures_stopHeartbeat : s.stopHeartbeat.2.figures = s.figures := by
  obtain ⟨hmanager, htraffic⟩ := s.stopHeartbeat_eq
  unfold figures
  rw [hmanager, htraffic.tally_eq, totals_stopHeartbeat]

/-- The frame that announces the end of a connection is not counted, as it is no command. -/
@[simp] theorem figures_sendClose : s.sendClose.figures = s.figures := by
  have hlookups : s.sendClose.world.tally.lookups = s.world.tally.lookups := by
    rcases s.sendClose_cases with ⟨-, htraffic⟩ | ⟨_, _, _, _, -, -, -, hwrites⟩
    · rw [htraffic.tally_eq]
    · rw [hwrites.tally_eq]
      rfl
  obtain ⟨_, hmanager⟩ := s.manager_sendClose
  unfold figures
  rw [hmanager, hlookups, totals_sendClose]

/-- Ending a connection is not counted, from whatever state it is ended. -/
theorem figures_disconnect : s.disconnect.2.figures = s.figures := by
  unfold disconnect
  rcases hstop : s.stopHeartbeat with ⟨handle, t⟩
  have hstopped : t.figures = s.figures := by rw [← s.figures_stopHeartbeat, hstop]
  dsimp only
  rw [figures_transition _ (by simp)]
  split <;> simp [hstopped]

end Quiet

section Attempts

variable {s : Channel}

/-- Each attempt begins with a lookup, which is the one that is counted for it. -/
theorem figures_dial (s : Channel) : s.dial.2.figures = s.figures.lookUp := by
  have hlookups : s.dial.2.world.tally.lookups = s.world.tally.lookups + 1 := by
    rcases s.dial_cases with ⟨e, t, hdial, hseeks⟩ | ⟨link, u, w, hdial, hseeks, hmakes⟩
    · rw [hdial, hseeks.world.tally_eq]
      rfl
    · rw [hdial, hmakes.tally_eq, hseeks.world.tally_eq]
      rfl
  unfold figures
  rw [manager_dial, totals_dial, hlookups]
  rfl

/-- No more than one monitor is started at a time, and none where one is held or none can start. -/
theorem exists_figures_ensureHeartbeat (s : Channel) :
    ∃ count ≤ 1, s.ensureHeartbeat.figures = s.figures.monitor count := by
  have htally := (sameTraffic_ensureHeartbeat s).tally_eq
  have htotals := s.totals_ensureHeartbeat
  unfold figures
  rw [htally, htotals]
  unfold ensureHeartbeat
  split
  · exact ⟨0, Nat.zero_le 1, rfl⟩
  · exact ⟨0, Nat.zero_le 1, rfl⟩
  · split
    · exact ⟨1, Nat.le_refl 1, rfl⟩
    · exact ⟨0, Nat.zero_le 1, rfl⟩

/-- A connection that is taken over counts once, and nothing is owed on it. -/
theorem figures_adopt (hstate : s.manager.state ≠ .connected) (link : Link) :
    (s.adopt link).figures = s.figures.connect := by
  simp [figures, adopt, totals_transition, hstate, Figures.connect, Stats.recordConnect]

/-- An attempt fails, or succeeds and is counted. That it failed is counted by whoever made it. -/
theorem figures_openLink (hstate : s.manager.state ≠ .connected) :
    (∃ e t, s.openLink = (.error e, t) ∧ t.figures = s.figures.lookUp) ∨
    ∃ t, s.openLink = (.ok (), t) ∧
      ∃ count ≤ 1, t.figures = s.figures.lookUp.connect.monitor count := by
  have hfigures := s.closeLink.figures_dial
  have hmanager := s.closeLink.manager_dial
  rw [figures_closeLink] at hfigures
  unfold openLink
  rcases hdial : s.closeLink.dial with ⟨e | link, t⟩ <;> rw [hdial] at hfigures hmanager
  · exact .inl ⟨e, t, rfl, hfigures⟩
  · have hsame : t.manager.state = s.manager.state := by
      rw [show t.manager = s.closeLink.manager from hmanager, manager_closeLink]
    obtain ⟨count, hcount, hstarted⟩ := (t.adopt link).exists_figures_ensureHeartbeat
    rw [figures_adopt (hsame ▸ hstate), hfigures] at hstarted
    exact .inr ⟨_, rfl, count, hcount, hstarted⟩

/-- A request to connect makes one attempt where there is no connection. -/
theorem tries_connect (hstate : s.manager.state ≠ .connected) :
    s.figures.Tries s.connect.1 s.connect.2.figures := by
  have hchanged : (s.transition .connecting).figures = s.figures :=
    s.figures_transition (by simp)
  have hchanging : (s.transition .connecting).manager.state ≠ .connected := by simp
  unfold connect
  rw [if_neg fun hconnected => hstate (LinkState.isConnected_iff.1 hconnected)]
  rcases figures_openLink hchanging with ⟨e, t, hopen, ht⟩ | ⟨t, hopen, count, hcount, ht⟩
  · rw [hopen]
    dsimp only
    rw [figures_fail, figures_count_failure, figures_tell, ht, hchanged]
    exact .miss
  · rw [hopen]
    dsimp only
    rw [ht, hchanged]
    exact .connect hcount

/-- An attempt to connect again is one like any other, and counts apart as well. -/
theorem exists_tries_attempt (hstate : s.manager.state ≠ .connected) :
    ∃ g, s.figures.Tries s.attempt.1 g ∧ s.attempt.2.figures = g.again := by
  have hcounted : (s.count Stats.recordReconnect).manager.state ≠ .connected := hstate
  unfold attempt
  rcases figures_openLink hcounted with ⟨e, t, hopen, ht⟩ | ⟨t, hopen, count, hcount, ht⟩
  · rw [hopen]
    refine ⟨_, .miss, ?_⟩
    dsimp only
    rw [figures_count_failure, figures_tell, ht]
    rfl
  · rw [hopen]
    exact ⟨_, .connect hcount, ht⟩

/-- Every attempt to open a connection counts once, be it made on request or after a loss. -/
theorem countsOnce_connect_attempt (hstate : s.manager.state ≠ .connected) :
    s.figures.CountsOnce s.connect.1 s.connect.2.figures ∧
      s.figures.CountsOnce s.attempt.1 s.attempt.2.figures := by
  obtain ⟨g, htries, hg⟩ := exists_tries_attempt hstate
  have hcounts := htries.countsOnce
  rw [hg]
  exact ⟨(tries_connect hstate).countsOnce, hcounts.lookups, hcounts.success, hcounts.failure⟩

end Attempts

section Transfers

variable (s : Channel)

/-- A frame that leaves is counted, and one that does not is not. -/
theorem figures_sendFrame (frame : List UInt8) :
    (∃ e t, s.sendFrame frame = (.error e, t) ∧ t.figures = s.figures) ∨
    ∃ conn t, s.sendFrame frame = (.ok (), t) ∧ t.figures = s.figures.send conn frame := by
  unfold sendFrame
  split
  · exact .inl ⟨_, s, rfl, rfl⟩
  · rename_i link hlink
    have htotals := link.totals_writeEncoded frame s.world
    have htally := link.tally_writeEncoded frame s.world
    rcases hwrite : link.writeEncoded frame s.world with ⟨e | _, link', w⟩ <;>
      rw [hwrite] at htotals htally <;> dsimp only at htotals htally
    · refine .inl ⟨e, _, rfl, ?_⟩
      simp [figures, htotals, htally, Tally.offer]
    · refine .inr ⟨link'.number, _, rfl, ?_⟩
      simp [figures, Figures.send, Stats.recordSend, Totals.note, Tally.note, Tally.offer, htotals,
        htally]

/-- A reply that is read is counted, whether it is late or not. -/
theorem figures_readReply :
    (∃ e t, s.readReply = (.error e, t) ∧ t.figures = s.figures) ∨
    ∃ receipt t, s.readReply = (.ok receipt.reply, t) ∧
      ∀ owed, (t.owe owed).figures = s.figures.receive receipt owed := by
  unfold readReply
  split
  · exact .inl ⟨_, s, rfl, rfl⟩
  · rename_i link hlink
    obtain ⟨result, inbound, now, hread⟩ := link.read_eq Response.ofBytes s.world
    rw [hread]
    cases result with
    | error e => exact .inl ⟨e, _, rfl, rfl⟩
    | ok got => exact .inr ⟨⟨link.number, got.1, got.2⟩, _, rfl, fun _ => rfl⟩

end Transfers

section Functions

variable {requests : Nat} {s t : Channel}

/-- A request to connect counts where there is no connection, and is no attempt where there is
one. -/
theorem balanced_connect (h : s.figures.Balanced requests) :
    s.connect.2.figures.Balanced
      (requests + if s.manager.state.isConnected then 0 else 1) := by
  by_cases hstate : s.manager.state = .connected
  · unfold connect
    rw [if_pos (LinkState.isConnected_iff.2 hstate), if_pos (LinkState.isConnected_iff.2 hstate)]
    exact h
  · rw [if_neg fun hconnected => hstate (LinkState.isConnected_iff.1 hconnected)]
    exact h.tries (tries_connect hstate)

/-- An attempt to connect again keeps the balance, be it a success or not. -/
theorem balanced_attempt (hstate : s.manager.state = .reconnecting) {done : Bool}
    (hattempt : s.attempt = (done, t)) (h : s.figures.Balanced requests) :
    t.figures.Balanced requests := by
  have hdown : s.manager.state ≠ .connected := by
    rw [hstate]
    simp
  obtain ⟨g, htries, hg⟩ := exists_tries_attempt hdown
  rw [hattempt] at hg
  rw [show t.figures = g.again from hg]
  exact (h.tries htries).again

/-- Connecting again keeps the balance, however many attempts it takes. The balance is carried
through the loop as an invariant. -/
theorem balanced_reconnect (h : s.figures.Balanced requests) :
    s.reconnect.2.figures.Balanced requests := by
  have hchanged : (s.closeLink.transition .reconnecting).figures = s.figures := by
    rw [figures_transition _ (by simp), figures_closeLink]
  have hstate : (s.closeLink.transition .reconnecting).manager.state = .reconnecting := by simp
  unfold reconnect
  dsimp only
  generalize s.closeLink.transition .reconnecting = start at hchanged hstate
  rw [← hchanged] at h
  rcases hrun : start.manager.config.backoff.run pause attempt start.manager.attempts start
    with ⟨done, made, t⟩
  obtain ⟨ht, -⟩ := run_attempt_keeps (I := fun u => u.figures.Balanced requests) _
    (fun _ _ hu => hu) (fun hu hattempt => balanced_attempt hu hattempt) hstate h hrun
  cases done with
  | true => exact ht
  | false =>
    dsimp only
    rw [figures_transition _ (by simp)]
    exact ht

/-- Seeing to a connection keeps the balance, as all it may do is to connect again. -/
theorem balanced_ensureLink (h : s.figures.Balanced requests) :
    s.ensureLink.2.figures.Balanced requests := by
  unfold ensureLink
  split
  · exact h
  · exact balanced_reconnect h

/-- Awaiting a reply keeps the balance, however many late ones are passed over. The induction is on
the late ones; each that is read was owed. -/
theorem balanced_awaitReply (late : Nat) (h : s.figures.Balanced requests)
    (howed : s.manager.owedReplies = late + 1) :
    (awaitReply late s).2.figures.Balanced requests := by
  induction late generalizing s with
  | zero =>
    unfold awaitReply
    rcases s.figures_readReply with ⟨e, t, hread, ht⟩ | ⟨receipt, t, hread, ht⟩
    · rw [hread]
      exact ht ▸ h
    · rw [hread]
      change (t.owe 0).figures.Balanced requests
      rw [ht]
      exact h.receive howed receipt
  | succ late ih =>
    unfold awaitReply
    rcases s.figures_readReply with ⟨e, t, hread, ht⟩ | ⟨receipt, t, hread, ht⟩
    · rw [hread]
      exact ht ▸ h
    · rw [hread]
      apply ih
      · change (t.owe (late + 1)).figures.Balanced requests
        rw [ht]
        exact h.receive howed receipt
      · rfl

/-- A round trip keeps the balance, whether its frame leaves or not. -/
theorem balanced_roundTrip (frame : List UInt8) (h : s.figures.Balanced requests) :
    (s.roundTrip frame).2.figures.Balanced requests := by
  unfold roundTrip
  rcases s.figures_sendFrame frame with ⟨e, t, hsend, ht⟩ | ⟨conn, t, hsend, ht⟩
  · rw [hsend]
    exact ht ▸ h
  · rw [hsend]
    have howed : t.manager.owedReplies = s.manager.owedReplies + 1 := congrArg Figures.owed ht
    dsimp only
    refine balanced_awaitReply _ (ht ▸ h.send conn frame) ?_
    rw [howed, Nat.add_sub_cancel]

/-- Sending a frame keeps the balance, however often the connection is lost. -/
theorem balanced_exchange (name : String) (frame : List UInt8) (resends : Nat)
    (h : s.figures.Balanced requests) :
    (s.exchange name frame resends).2.figures.Balanced requests := by
  have hensured {u v : Channel} {done : Bool} (hu : u.figures.Balanced requests)
      (hensure : u.ensureLink = (done, v)) : v.figures.Balanced requests := by
    have hv := balanced_ensureLink hu
    rwa [hensure] at hv
  have hround {u v : Channel} {result : Except ChannelError Response}
      (hu : u.figures.Balanced requests) (hround : u.roundTrip frame = (result, v)) :
      v.figures.Balanced requests := by
    have hv := balanced_roundTrip frame hu
    rwa [hround] at hv
  have hlost {u v : Channel} {e : ChannelError} {done : Bool} (hu : u.figures.Balanced requests)
      (hreconnect : (u.tell (.connectionLost name e)).fail.reconnect = (done, v)) :
      v.figures.Balanced requests := by
    have hfailed : (u.tell (.connectionLost name e)).fail.figures.Balanced requests := by
      rwa [figures_fail]
    have hv := balanced_reconnect hfailed
    rwa [hreconnect] at hv
  fun_induction exchange name frame resends s with
  | case1 resends s t hensure => exact hensured h hensure
  | case2 resends s u hensure reply t hreply => exact hround (hensured h hensure) hreply
  | case3 resends s u hensure e v herror htimeout =>
    have hv := hround (hensured h hensure) herror
    exact hv
  | case4 s u hensure e v herror _ hloss _ =>
    have hv := hround (hensured h hensure) herror
    rwa [figures_fail]
  | case5 s u hensure e v herror _ hloss _ resends t hreconnect =>
    exact hlost (hround (hensured h hensure) herror) hreconnect
  | case6 s u hensure e v herror _ hloss _ resends t hreconnect ih =>
    have ht := hlost (hround (hensured h hensure) herror) hreconnect
    exact ih ht
  | case7 resends s u hensure e v herror htimeout hloss =>
    have hv := hround (hensured h hensure) herror
    rwa [figures_fail]

/-- A command keeps the balance. One without a frame is not counted at all. -/
theorem balanced_execute (command : Command) (h : s.figures.Balanced requests) :
    (s.execute command).2.figures.Balanced requests := by
  unfold execute
  split
  · exact h
  · exact balanced_exchange _ _ _ h

end Functions

end Channel

end CommandChannel
