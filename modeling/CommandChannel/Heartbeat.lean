import CommandChannel.Duration

/-!
# The heartbeat

A monitor sleeps for an interval at a time. Woken by the clock it looks how long the connection
has been idle, and asks the peer for a sign of life after an interval or more. It ends when it is
told to, when nobody holds it any longer, or when the connection it watches is gone.

Whoever ends a monitor waits for it in short steps, but only up to a limit.
-/

namespace CommandChannel

namespace Heartbeat

/-- What wakes a monitor. -/
inductive Wake where
  /-- The interval is over. -/
  | clock
  /-- It was told to end. -/
  | stop
  /-- Nobody holds it any longer. -/
  | abandoned
deriving DecidableEq, Repr

/-- What a monitor does when it is awake. -/
inductive Action where
  /-- It ends. -/
  | finish
  /-- It sleeps for another interval. -/
  | rest
  /-- It asks for a sign of life, then sleeps for another interval. -/
  | probe (idle : Duration)
deriving DecidableEq, Repr

/-- What a monitor does after a wake-up. The idle time is that of the watched connection, if it
still exists. -/
def action (interval : Duration) (wake : Wake) (idle : Option Duration) : Action :=
  match wake, idle with
  | .clock, some idle => if interval ≤ idle then .probe idle else .rest
  | .clock, none => .finish
  | .stop, _ | .abandoned, _ => .finish

/-- What a monitor is doing. -/
inductive Phase where
  /-- It sleeps until a moment. -/
  | asleep (deadline : Duration)
  /-- It is about to ask for a sign of life after so much idle time. -/
  | held (idle : Duration)
  /-- It has ended. -/
  | finished
deriving DecidableEq, Repr

/-- A monitor at work. -/
structure Thread where
  /-- The epoch in which it was started. -/
  epoch : Nat
  /-- How long it sleeps between two looks. -/
  interval : Duration
  phase : Phase
  /-- It was told to end. -/
  stopped : Bool := false
deriving DecidableEq, Repr

/-- The moment at which a sleeping monitor is woken by the clock. -/
def Thread.deadline? (t : Thread) : Option Duration :=
  match t.phase with
  | .asleep deadline => some deadline
  | _ => none

/-- The handle of a monitor: its epoch and its place among the threads. -/
structure Handle where
  epoch : Nat
  thread : Nat
deriving DecidableEq, Repr

/-- The step in which the end of a monitor is awaited. -/
def pollStep : Duration := .ofMillis 5

/-- How long the end of a monitor is awaited. -/
def joinLimit : Duration := .ofSeconds 2

/-- The step is not empty, without which waiting in steps would never come to an end. -/
theorem pollStep_pos : 0 < pollStep.nanos := by decide

/-- Await the end of a monitor from a moment on, in steps. Returns whether it ended, how many steps
were slept and the moment of return. `finish` is the moment at which it ends, if it ever does. -/
def awaitInSteps (step : Duration) (hstep : 0 < step.nanos) (finish : Option Duration)
    (deadline now : Duration) : Bool × Nat × Duration :=
  if finish.any (· ≤ now) then (true, 0, now)
  else if _hlt : now < deadline then
    let (ended, steps, later) := awaitInSteps step hstep finish deadline (now + step)
    (ended, steps + 1, later)
  else (false, 0, now)
termination_by deadline.nanos - now.nanos
decreasing_by
  exact Nat.sub_lt_sub_left (Duration.lt_iff.1 _hlt)
    (Duration.lt_iff.1 (Duration.lt_add _hlt hstep))

/-- Await the end of a monitor for a time from a moment on. -/
def await (finish : Option Duration) (limit now : Duration) : Bool × Nat × Duration :=
  awaitInSteps pollStep pollStep_pos finish (now + limit) now

end Heartbeat

end CommandChannel
