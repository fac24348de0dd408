import CommandChannel.Heartbeat

/-!
# Watching

A monitor watches something that others use at the same time. It goes on in turns: it sleeps, is
woken, looks how long the other has been idle and, if that is long enough, waits until nobody else
uses it and asks for a sign of life. What others do meanwhile shows in the state in which the
monitor wakes up and in the state in which it comes to ask, and these may be any.
-/

namespace CommandChannel

namespace Heartbeat

/-- What a monitor can watch, in states of any kind. -/
structure Target (σ : Type) where
  /-- It still exists. -/
  isThere : σ → Bool
  now : σ → Duration
  lastActivity : σ → Duration
  /-- Ask for a sign of life on behalf of the monitor of an epoch. -/
  heartbeat : Nat → σ → Bool × σ

/-- The time since the last activity, as long as there is anything to be active. -/
def Target.idle? {σ : Type} (target : Target σ) (s : σ) : Option Duration :=
  if target.isThere s then some (target.now s - target.lastActivity s) else none

/-- What befalls a monitor in a turn. -/
structure Round (σ : Type) where
  /-- What wakes it. -/
  wake : Wake
  /-- The state in which it wakes up. -/
  awake : σ
  /-- The state in which nobody else is in its way, if it wants to ask. -/
  asking : σ

/-- A turn of a monitor. -/
structure Turn (σ : Type) where
  /-- The state in which it fell asleep. -/
  asleep : σ
  round : Round σ
  action : Action
  /-- The epoch for which it asked for a sign of life, and whether there was one. -/
  call : Option (Nat × Bool)
  /-- The state in which the turn ends. -/
  after : σ

section

variable {σ : Type} (target : Target σ) (interval : Duration) (epoch : Nat)

/-- The turn of a monitor that fell asleep in a state. -/
def turn (asleep : σ) (round : Round σ) : Turn σ :=
  match action interval round.wake (target.idle? round.awake) with
  | .probe idle =>
    match target.heartbeat epoch round.asking with
    | (alive, after) => ⟨asleep, round, .probe idle, some (epoch, alive), after⟩
  | action => ⟨asleep, round, action, none, round.awake⟩

/-- The turns of a monitor, one after the other, up to the one in which it ends. -/
def watch (asleep : σ) : List (Round σ) → List (Turn σ)
  | [] => []
  | round :: rounds =>
    let t := turn target interval epoch asleep round
    if t.action = .finish then [t] else t :: watch t.after rounds

end

end Heartbeat

end CommandChannel
