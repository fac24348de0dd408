import CommandChannel.Proofs.Moves

/-!
# Connecting on request

A request to connect makes one attempt, at once: the peer is looked up and its addresses are tried
in turn. What the attempt leaves is told in full, of the manager and of its monitors. A manager
that is connected already is left as it is.
-/

namespace CommandChannel

open Channel

/-- A manager that failed to connect at a moment. -/
def Manager.refused (moment : Duration) (m : Manager) : Manager :=
  { m with
    state := .error, published := .error, link := none
    stats := { m.stats with failures := m.stats.failures + 1, lastError := some moment } }

/-- A manager that was connected at a moment, as long as it has not seen to its monitor. -/
def Manager.connected (link : Link) (moment : Duration) (m : Manager) : Manager :=
  { m with
    state := .connected, published := .connected, link := some link
    attempts := 0, owedReplies := 0, lastActivity := moment
    stats := { m.stats with connects := m.stats.connects + 1, lastConnected := some moment } }

namespace World

/-- The peer's addresses were tried between two worlds, and nothing else was done towards it.
Monitors were left alone. -/
structure Tries (limit : Duration) (tried : List SocketAddr) (w w' : World) : Prop where
  /-- The addresses were tried in their order. -/
  actions_eq : w'.actions = (tried.map (Event.dial · limit)).reverse ++ w.actions
  /-- No monitor was started, and none was told to end. -/
  threads_eq : w'.threads = w.threads
  spawns_eq : w'.spawns = w.spawns

section Tries

variable {limit : Duration} {first second : List SocketAddr} {u v w : World}

/-- Between a world and itself no address was tried, whatever the limit is. -/
theorem Tries.refl (limit : Duration) (w : World) : w.Tries limit [] w := ⟨rfl, rfl, rfl⟩

/-- Addresses may be tried after others, and are noted behind them. -/
theorem Tries.trans (huv : u.Tries limit first v) (hvw : v.Tries limit second w) :
    u.Tries limit (first ++ second) w where
  actions_eq := by
    rw [hvw.actions_eq, huv.actions_eq, List.map_append, List.reverse_append, List.append_assoc]
  threads_eq := hvw.threads_eq.trans huv.threads_eq
  spawns_eq := hvw.spawns_eq.trans huv.spawns_eq

end Tries

end World

namespace Link

end Link

namespace Channel

/-- How a manager sees to its monitor at a moment, and which monitors there are then: one that it
holds is kept, and one is started only if none is held, if one is wanted and if the next thread
starts. -/
inductive Tends (m : Manager) (moment : Duration) (spawns : List (Option IoError))
    (threads : List Heartbeat.Thread) : Manager → List Heartbeat.Thread → Prop
  /-- A monitor is held, and is left at work. -/
  | kept {handle : Heartbeat.Handle} (hheld : m.heartbeat = some handle) :
      Tends m moment spawns threads m threads
  /-- No monitor is held, and none is wanted. -/
  | unwanted (hnone : m.heartbeat = none) (hinterval : m.config.activeInterval = none) :
      Tends m moment spawns threads m threads
  /-- A monitor is wanted, and its thread does not start. -/
  | failed {interval : Duration} {error : IoError} (hnone : m.heartbeat = none)
      (hinterval : m.config.activeInterval = some interval)
      (hspawn : spawns.head? = some (some error)) : Tends m moment spawns threads m threads
  /-- A monitor of the present epoch is started, and sleeps for one interval first. -/
  | started {interval : Duration} (hnone : m.heartbeat = none)
      (hinterval : m.config.activeInterval = some interval)
      (hspawn : ∀ error, spawns.head? ≠ some (some error)) :
      Tends m moment spawns threads
        { m with
          heartbeat := some ⟨m.epoch, threads.length⟩
          stats := { m.stats with heartbeats := m.stats.heartbeats + 1 } }
        (threads ++ [⟨m.epoch, interval, .asleep (moment + interval), false⟩])

/-- Seeing to the monitor changes no more of a manager than the monitor and the statistics. -/
theorem Tends.manager_eq {m m' : Manager} {moment : Duration} {spawns : List (Option IoError)}
    {threads threads' : List Heartbeat.Thread} (h : Tends m moment spawns threads m' threads') :
    ∃ stats heartbeat, m' = { m with stats, heartbeat } := by
  cases h with
  | kept | unwanted | failed => exact ⟨_, _, rfl⟩
  | started => exact ⟨_, _, rfl⟩

section Steps

variable (s : Channel)

/-- A change of the state is nothing done towards the peer. -/
theorem tries_transition (limit : Duration) (next : LinkState) :
    s.world.Tries limit [] (s.transition next).world := by
  unfold transition
  simp only
  split <;> exact ⟨rfl, rfl, rfl⟩

/-- A manager that takes a connection over does so at once, and does nothing towards the peer for
it. -/
theorem adopt_eq (link : Link) :
    (s.adopt link).manager = s.manager.connected link s.now ∧ (s.adopt link).now = s.now ∧
      s.world.Tries s.manager.config.ioTimeout [] (s.adopt link).world := by
  let taken : Channel :=
    ⟨{ s.manager with
        link := some link, attempts := 0, owedReplies := 0
        stats := s.manager.stats.recordConnect s.now },
      s.world.tell (.connected link.peerAddr)⟩
  have hadopted : s.adopt link = (taken.transition .connected).touch := rfl
  have hnow : (taken.transition .connected).now = s.now := taken.now_transition .connected
  have htold : s.world.Tries s.manager.config.ioTimeout [] taken.world := ⟨rfl, rfl, rfl⟩
  rw [hadopted, manager_touch, world_touch, manager_transition, hnow]
  exact ⟨rfl, hnow, htold.trans (taken.tries_transition _ _)⟩

end Steps

section Connect

variable {s : Channel}

/-- A manager that is connected is left as it is, and watchers are told so. -/
theorem connect_of_connected (h : s.manager.state = .connected) :
    s.connect = (true, s.tell .alreadyConnected) := if_pos (LinkState.isConnected_iff.2 h)

end Connect

end Channel

namespace Scenario

variable (sc : Scenario)

end Scenario

end CommandChannel
