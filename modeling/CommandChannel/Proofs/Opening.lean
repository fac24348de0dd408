import CommandChannel.Channel.Connect
import CommandChannel.Proofs.Dialing

/-!
# Opening a connection

What the steps of a manager change on the way to a connection. Opening one either fails and leaves
all but the statistics as it was, or leaves the manager connected; connecting again repeats
attempts that fail until one succeeds or none is left.
-/

namespace CommandChannel

/-- The test for a connection is met by one state alone. -/
theorem LinkState.isConnected_iff {state : LinkState} :
    state.isConnected = true ↔ state = .connected := beq_iff_eq

namespace Channel

section Steps

variable (s : Channel)

/-- What happens does not change the manager by itself. What it means for the manager is changed
apart. -/
@[simp] theorem manager_record (event : Event) : (s.record event).manager = s.manager := rfl

/-- What happens is added to the world, at its moment. -/
@[simp] theorem world_record (event : Event) : (s.record event).world = s.world.record event := rfl

/-- Telling something to watchers does not change the manager, whatever they are told. -/
@[simp] theorem manager_tell (notice : Notice) : (s.tell notice).manager = s.manager := rfl

/-- What watchers are told is added to the world, at its moment. -/
@[simp] theorem world_tell (notice : Notice) : (s.tell notice).world = s.world.tell notice := rfl

/-- Counting changes the statistics of the manager and nothing else of it. -/
@[simp] theorem manager_count (f : Stats → Stats) :
    (s.count f).manager = { s.manager with stats := f s.manager.stats } := rfl

/-- Counting does not change the world, so that it leaves no entry in the history. -/
@[simp] theorem world_count (f : Stats → Stats) : (s.count f).world = s.world := rfl

/-- Activity changes the date of the last one, to this moment. -/
@[simp] theorem manager_touch : s.touch.manager = { s.manager with lastActivity := s.now } := rfl

/-- Noting activity does not change the world, so that it leaves no entry in the history. -/
@[simp] theorem world_touch : s.touch.world = s.world := rfl

/-- A change of the state changes the state and what is seen of it, also if the state was the same
before. -/
@[simp] theorem manager_transition (next : LinkState) :
    (s.transition next).manager = { s.manager with state := next, published := next } := by
  unfold transition
  simp only
  split <;> rfl

/-- A change of the state concerns no connection, even if it is one to the state of being
connected. -/
@[simp] theorem account_transition (next : LinkState) (c : Nat) :
    (s.transition next).world.account c = s.world.account c := by
  unfold transition
  simp only
  split <;> rfl

/-- A change of the state does not change the tally, which counts lookups, offers and answers. -/
@[simp] theorem tally_transition (next : LinkState) :
    (s.transition next).world.tally = s.world.tally := by
  unfold transition
  simp only
  split <;> rfl

/-- A change of the state makes no connection. It follows one that was made. -/
@[simp] theorem made_transition (next : LinkState) :
    (s.transition next).world.made = s.world.made := by
  unfold transition
  simp only
  split <;> rfl

/-- A change of the state takes no time, whether it is recorded or not. -/
@[simp] theorem now_transition (next : LinkState) : (s.transition next).now = s.now := by
  unfold transition now
  simp only
  split <;> rfl

/-- Without a connection there is nothing to give up, and nothing is shut down. -/
theorem closeLink_of_none {s : Channel} (h : s.manager.link = none) : s.closeLink = s := by
  unfold closeLink
  rw [h]

/-- Giving the connection up leaves the manager without one and as it was otherwise. -/
@[simp] theorem manager_closeLink : s.closeLink.manager = { s.manager with link := none } := by
  unfold closeLink
  split
  · rename_i h
    rw [← h]
  · rfl

/-- After the connection was given up there is none, whether there was one or not. -/
theorem link_closeLink : s.closeLink.manager.link = none := by rw [manager_closeLink]

/-- Giving the connection up does not change the tally, as nothing is offered to it. -/
@[simp] theorem tally_closeLink : s.closeLink.world.tally = s.world.tally := by
  unfold closeLink
  split <;> rfl

/-- Giving the connection up makes none, and takes none back that was made. -/
@[simp] theorem made_closeLink : s.closeLink.world.made = s.world.made := by
  unfold closeLink
  split <;> rfl

/-- Giving the connection up takes no time, whether its socket can be shut down or not. -/
@[simp] theorem now_closeLink : s.closeLink.now = s.now := by
  unfold closeLink now
  split <;> rfl

/-- The connection that is given up is recorded as such, and no other one is. -/
theorem account_closeLink {s : Channel} {link : Link} (h : s.manager.link = some link) (c : Nat) :
    s.closeLink.world.account c =
      if link.number = c then (s.world.account c).finish else s.world.account c := by
  unfold closeLink
  rw [h]
  rfl

/-- Nothing passes over any connection while one is given up. What it took before it keeps. -/
theorem sameStream_closeLink (c : Nat) :
    (s.world.account c).SameStream (s.closeLink.world.account c) := by
  cases hlink : s.manager.link with
  | none =>
    rw [closeLink_of_none hlink]
    exact ⟨rfl, rfl, rfl⟩
  | some link =>
    rw [account_closeLink hlink]
    split <;> exact ⟨rfl, rfl, rfl⟩

/-- A failure gives the connection up and is noted, at once. This is all that it changes of the
manager. -/
theorem manager_fail_eq :
    s.fail.manager = { s.manager with
      state := .error, published := .error, link := none
      stats := { s.manager.stats with lastError := some s.now } } := by
  unfold fail
  simp only [manager_transition, manager_count, manager_closeLink, now_closeLink]

/-- A failure gives the connection up and leaves the manager in the state of an error. -/
theorem manager_fail :
    ∃ stats, s.fail.manager =
      { s.manager with state := .error, published := .error, link := none, stats } :=
  ⟨_, s.manager_fail_eq⟩

/-- The failure of a connection takes no time, so that it is noted at the moment at which it was
found. -/
theorem now_fail : s.fail.now = s.now := by
  unfold fail
  rw [now_transition]
  exact s.now_closeLink

/-- To the accounts of connections a failure is that one of them is given up. -/
@[simp] theorem account_fail (c : Nat) :
    s.fail.world.account c = s.closeLink.world.account c := by
  simp [fail]

/-- The failure of a connection does not change the tally, as nothing is offered and nothing looked
up. -/
@[simp] theorem tally_fail : s.fail.world.tally = s.world.tally := by
  simp [fail]

/-- The failure of a connection makes none. A new one is made only by an attempt after that. -/
@[simp] theorem made_fail : s.fail.world.made = s.world.made := by
  simp [fail]

end Steps

/-- Seeing to the heartbeat changes nothing but the monitor and the statistics, and starts a
monitor of the present epoch only where there was none. -/
theorem manager_ensureHeartbeat (s : Channel) :
    ∃ stats heartbeat, s.ensureHeartbeat.manager = { s.manager with stats, heartbeat } ∧
      (heartbeat = s.manager.heartbeat ∨
        s.manager.heartbeat = none ∧ ∃ thread, heartbeat = some ⟨s.manager.epoch, thread⟩) := by
  unfold ensureHeartbeat
  split
  · exact ⟨_, _, rfl, .inl rfl⟩
  · exact ⟨_, _, rfl, .inl rfl⟩
  · rename_i hnone
    split
    · exact ⟨_, _, rfl, .inr ⟨hnone, _, rfl⟩⟩
    · exact ⟨_, _, rfl, .inl rfl⟩

/-- Starting a thread concerns no connection, whether it starts or not. -/
theorem sameTraffic_spawn (w : World) (epoch : Nat) (interval : Duration) :
    w.SameTraffic (w.spawn epoch interval).2 := by
  unfold World.spawn
  split <;> exact ⟨rfl, fun _ => rfl, rfl⟩

/-- Seeing to the heartbeat concerns no connection, as a monitor asks for nothing when it is
started. -/
theorem sameTraffic_ensureHeartbeat (s : Channel) :
    s.world.SameTraffic s.ensureHeartbeat.world := by
  unfold ensureHeartbeat
  split
  · exact .refl _
  · exact .refl _
  · rename_i interval _ _
    have hspawn := sameTraffic_spawn s.world s.manager.epoch interval
    split <;> rename_i heq <;> rw [heq] at hspawn <;>
      exact ⟨hspawn.made_eq, hspawn.account_eq, hspawn.tally_eq⟩

/-- Attempts to connect failed between two channels, after so many lookups. The managers differ in
the statistics alone. -/
structure Seeks (count : Nat) (s t : Channel) : Prop where
  manager_eq : ∃ stats, t.manager = { s.manager with stats }
  world : s.world.Seeks count t.world

/-- Attempts that failed may be followed by others that failed. Their lookups add up. -/
theorem Seeks.trans {s t u : Channel} {m n : Nat} (hst : s.Seeks m t) (htu : t.Seeks n u) :
    s.Seeks (m + n) u where
  manager_eq := by
    obtain ⟨stats, ht⟩ := hst.manager_eq
    obtain ⟨stats', hu⟩ := htu.manager_eq
    exact ⟨stats', by rw [hu, ht]⟩
  world := hst.world.trans htu.world

/-- Attempts may go on failing in the world alone, without the manager. -/
theorem Seeks.trans_world {s t : Channel} {m n : Nat} {w : World} (hst : s.Seeks m t)
    (hw : t.world.Seeks n w) : s.Seeks (m + n) { t with world := w } where
  manager_eq := hst.manager_eq
  world := hst.world.trans hw

/-- A connection was opened between two channels, after so many lookups. The later manager is
connected, no failed attempts and no replies are counted, and the monitor is the earlier one or
one of the present epoch. -/
structure Opens (count : Nat) (link : Link) (s t : Channel) : Prop where
  manager_eq : ∃ stats heartbeat activity, t.manager =
    { s.manager with
      state := .connected, published := .connected, link := some link, attempts := 0,
      owedReplies := 0, stats := stats, heartbeat := heartbeat, lastActivity := activity }
  /-- A monitor is started only where none is held, and it is of the present epoch. -/
  heartbeat_cases : t.manager.heartbeat = s.manager.heartbeat ∨
    s.manager.heartbeat = none ∧ ∃ thread, t.manager.heartbeat = some ⟨s.manager.epoch, thread⟩
  /-- Attempts that failed come before the one that made the connection. -/
  world : ∃ u, s.world.Seeks count u ∧ u.Makes link t.world

/-- The connection that was opened is the one that the manager holds. -/
theorem Opens.link_eq {s t : Channel} {count : Nat} {link : Link} (h : s.Opens count link t) :
    t.manager.link = some link := by
  obtain ⟨_, _, _, hmanager⟩ := h.manager_eq
  rw [hmanager]

/-- Nothing passes over any connection while one is opened, also not over those that failed on the
way. -/
theorem Opens.sameStream {s t : Channel} {count : Nat} {link : Link} (h : s.Opens count link t)
    (c : Nat) : (s.world.account c).SameStream (t.world.account c) := by
  obtain ⟨u, hseeks, hmakes⟩ := h.world
  exact (hseeks.sameStream c).trans (hmakes.sameStream c)

/-- The manager takes a connection over. All that is left to do then is to see to the heartbeat. -/
def adopt (link : Link) (s : Channel) : Channel :=
  let s := s.tell (.connected link.peerAddr)
  let s := { s with
    manager := { s.manager with link := some link, attempts := 0, owedReplies := 0 } }
  ((s.count (Stats.recordConnect s.now)).transition .connected).touch

/-- A connection is given to a manager in two parts: it takes the connection over, and then sees to
the heartbeat. -/
theorem establish_eq (s : Channel) (link : Link) :
    s.establish link = (s.adopt link).ensureHeartbeat := rfl

/-- A manager that takes a connection over is connected, and its counts begin anew. -/
theorem manager_adopt (s : Channel) (link : Link) :
    ∃ stats activity, (s.adopt link).manager =
      { s.manager with
        state := .connected, published := .connected, link := some link, attempts := 0,
        owedReplies := 0, stats := stats, lastActivity := activity } := by
  simp only [adopt, manager_touch, manager_transition, manager_count, manager_tell]
  exact ⟨_, _, rfl⟩

/-- Taking a connection over concerns no other one, and nothing passes over this one. -/
theorem sameTraffic_adopt (s : Channel) (link : Link) :
    s.world.SameTraffic (s.adopt link).world := by
  constructor <;> simp [adopt]

/-- A manager that is given a new connection has opened it, whatever failed before that. -/
theorem opens_establish {s u : Channel} {count : Nat} {link : Link} {w : World}
    (hseeks : s.Seeks count u) (hmakes : u.world.Makes link w) :
    s.Opens count link (({ u with world := w } : Channel).establish link) := by
  obtain ⟨_, hseeking⟩ := hseeks.manager_eq
  obtain ⟨_, activity, hadopted⟩ := manager_adopt { u with world := w } link
  obtain ⟨stats, heartbeat, hmanager, hcases⟩ :=
    manager_ensureHeartbeat (({ u with world := w } : Channel).adopt link)
  have hadopt := sameTraffic_adopt { u with world := w } link
  have hensure := sameTraffic_ensureHeartbeat (({ u with world := w } : Channel).adopt link)
  rw [hadopted, hseeking] at hcases
  rw [establish_eq]
  refine ⟨⟨stats, heartbeat, activity, by rw [hmanager, hadopted, hseeking]⟩, ?_,
    u.world, hseeks.world, ?_⟩
  · rwa [hmanager]
  · exact ⟨hmakes.number_eq, hmakes.unused,
      (hensure.made_eq.trans hadopt.made_eq).trans hmakes.made_eq,
      fun c => ((hensure.account_eq c).trans (hadopt.account_eq c)).trans (hmakes.account_eq c),
      (hensure.tally_eq.trans hadopt.tally_eq).trans hmakes.tally_eq⟩

/-- Looking up the peer and connecting to it fails, or makes a connection. There is one lookup in it
in either case, also if it finds nothing. -/
theorem dial_cases (s : Channel) :
    (∃ e t, s.dial = (.error e, t) ∧ s.Seeks 1 t) ∨
      ∃ link u w, s.dial = (.ok link, { u with world := w }) ∧ s.Seeks 1 u ∧
        u.world.Makes link w := by
  have hlookup : s.Seeks 1 { s with world := s.world.lookUp s.manager.config.host } :=
    ⟨⟨_, rfl⟩, .of_unchanged rfl (fun _ => rfl) rfl⟩
  unfold dial
  simp only
  split
  · exact .inl ⟨_, _, rfl, hlookup⟩
  · rename_i addrs _
    rcases Link.connect_cases addrs s.manager.config.ioTimeout
      (s.world.lookUp s.manager.config.host) with
      ⟨e, w, hconnect, hseeks⟩ | ⟨link, u, w, hconnect, hseeks, hmakes⟩
    · refine .inl ⟨e, { s with world := w }, ?_, hlookup.trans_world hseeks⟩
      rw [hconnect]
    · refine .inr ⟨link, { s with world := u }, w, ?_, hlookup.trans_world hseeks, hmakes⟩
      rw [hconnect]

/-- An attempt to open a connection fails, or opens one. The connection from before is given up
first. -/
theorem openLink_cases (s : Channel) :
    (∃ e t, s.openLink = (.error e, t) ∧ s.closeLink.Seeks 1 t) ∨
      ∃ link t, s.openLink = (.ok (), t) ∧ s.closeLink.Opens 1 link t := by
  unfold openLink
  rcases s.closeLink.dial_cases with ⟨e, t, hdial, hseeks⟩ | ⟨link, u, w, hdial, hseeks, hmakes⟩
  · rw [hdial]
    exact .inl ⟨e, t, rfl, hseeks⟩
  · rw [hdial]
    exact .inr ⟨link, _, rfl, opens_establish hseeks hmakes⟩

end Channel

end CommandChannel
