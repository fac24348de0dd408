import CommandChannel.Duration

/-!
# Pauses between attempts

Attempts to connect again are numbered from one. The pause before an attempt doubles from attempt
to attempt, up to a ceiling; a pause that is out of range is the ceiling too.
-/

namespace CommandChannel

/-- How often to try again, and how long to pause before each attempt. -/
structure Backoff where
  /-- The number of attempts before giving up. It stands for a number of 32 bits, and so do all
  numbers of attempts below; they agree with these as long as the budget is less than 2 ^ 32. -/
  maxAttempts : Nat := 5
  /-- The pause before the first attempt. -/
  base : Duration := .ofSeconds 1
  /-- The longest pause. -/
  ceiling : Duration := .ofSeconds 30
deriving DecidableEq, Repr

namespace Backoff

/-- Factors fit in 32 bits, so that they double at most this many times. -/
def factorBits : Nat := 32

/-- The pause before an attempt; attempt zero counts as the first. -/
def delay (policy : Backoff) (attempt : Nat) : Duration :=
  let doublings := attempt - 1
  let grown := if doublings < factorBits then policy.base.checkedMul (Nat.pow 2 doublings) else none
  min (grown.getD policy.ceiling) policy.ceiling

/-- Another attempt may follow those already made. -/
def mayRetry (policy : Backoff) (made : Nat) : Bool := made < policy.maxAttempts

/-- Pause and try until an attempt succeeds or none is left. `made` attempts were made before; their
number comes back with all that were made. -/
def run {σ : Type} (policy : Backoff) (pause : Nat → Duration → σ → σ)
    (attempt : σ → Bool × σ) (made : Nat) (s : σ) : Bool × Nat × σ :=
  if _hleft : policy.mayRetry made then
    match attempt (pause (made + 1) (policy.delay (made + 1)) s) with
    | (true, s) => (true, made + 1, s)
    | (false, s) => policy.run pause attempt (made + 1) s
  else
    (false, made, s)
termination_by policy.maxAttempts - made
decreasing_by
  have hlt : made < policy.maxAttempts := of_decide_eq_true _hleft
  omega

end Backoff

end CommandChannel
