import CommandChannel.Backoff
import Mathlib.Algebra.Group.Nat.Defs
import Mathlib.Tactic.Common
import Mathlib.Order.Basic

/-!
# The law of the pauses

The pause before an attempt is the first pause, doubled for each attempt in between, or the ceiling
where that is less. A product whose seconds do not fit in 64 bits is beyond every ceiling, so that
the ceiling takes its place rightly. A factor that does not fit in 32 bits is replaced by the
ceiling too, although a short first pause may not have come up to the ceiling by then: the law holds
of the first 32 attempts, and later on of a first pause that reaches the ceiling.
-/

namespace CommandChannel

namespace Duration

/-- The lesser of two spans has the lesser length. Pauses are compared by their lengths through
it. -/
theorem nanos_min (a b : Duration) : (min a b).nanos = min a.nanos b.nanos := by
  change (if a ≤ b then a else b).nanos = _
  split
  · rename_i h
    exact (Nat.min_eq_left (le_iff.1 h)).symm
  · rename_i h
    exact (Nat.min_eq_right (Nat.le_of_not_le (mt le_iff.2 h))).symm

/-- A product that leaves the range is longer than any ceiling. So it makes no difference that it
has no span of its own. -/
theorem nanos_min_checkedMul (d ceiling : Duration) (k : Nat) :
    (min ((d.checkedMul k).getD ceiling) ceiling).nanos = min (d.nanos * k) ceiling.nanos := by
  rw [nanos_min]
  unfold checkedMul
  split
  · rfl
  · rename_i h
    have hceiling : ceiling.nanos ≤ d.nanos * k :=
      Nat.le_trans (Nat.le_of_lt ceiling.nanos_lt) (Nat.le_of_not_lt h)
    rw [Option.getD_none, Nat.min_self, Nat.min_eq_right hceiling]

end Duration

namespace Backoff

variable (policy : Backoff)

/-- While the factor fits in its 32 bits, the pause is what exact arithmetic gives. -/
theorem nanos_delay_of_le {attempt : Nat} (h : attempt ≤ 32) :
    (policy.delay attempt).nanos =
      min (policy.base.nanos * 2 ^ (attempt - 1)) policy.ceiling.nanos := by
  have hfits : attempt - 1 < factorBits := by
    unfold factorBits
    omega
  rw [delay, if_pos hfits]
  exact Duration.nanos_min_checkedMul _ _ _

/-- From then on it is the ceiling, whatever the first pause is. -/
theorem nanos_delay_of_lt {attempt : Nat} (h : 32 < attempt) :
    (policy.delay attempt).nanos = policy.ceiling.nanos := by
  have hfits : ¬ attempt - 1 < factorBits := by
    unfold factorBits
    omega
  rw [delay, if_neg hfits, Option.getD_none, Duration.nanos_min, Nat.min_self]

/-- No pause is longer than the ceiling, before any attempt. -/
theorem delay_le_ceiling (attempt : Nat) : policy.delay attempt ≤ policy.ceiling := by
  rw [Duration.le_iff]
  by_cases h : attempt ≤ 32
  · rw [policy.nanos_delay_of_le h]
    exact Nat.min_le_right _ _
  · exact Nat.le_of_eq (policy.nanos_delay_of_lt (Nat.lt_of_not_le h))

/-- No pause is shorter than an earlier one. Where the factor stops to fit, the pauses go up to the
ceiling, and not down. -/
theorem delay_le_delay {attempt later : Nat} (h : attempt ≤ later) :
    policy.delay attempt ≤ policy.delay later := by
  rw [Duration.le_iff]
  by_cases hlater : later ≤ 32
  · have hdoubled : policy.base.nanos * 2 ^ (attempt - 1) ≤ policy.base.nanos * 2 ^ (later - 1) :=
      Nat.mul_le_mul_left _ (Nat.pow_le_pow_right (by decide) (Nat.sub_le_sub_right h 1))
    rw [policy.nanos_delay_of_le (Nat.le_trans h hlater), policy.nanos_delay_of_le hlater]
    exact Nat.le_min.2 ⟨Nat.le_trans (Nat.min_le_left _ _) hdoubled, Nat.min_le_right _ _⟩
  · rw [policy.nanos_delay_of_lt (Nat.lt_of_not_le hlater)]
    exact Duration.le_iff.1 (policy.delay_le_ceiling attempt)

/-- The pause before an attempt is the lesser of the doubled first pause and the ceiling up to
attempt 32, and the ceiling after that. So it is the lesser of both exactly if the attempt is one of
the first 32 or the doubled first pause has come up to the ceiling. -/
theorem delay_eq_min_iff (attempt : Nat) :
    let doubled := policy.base.nanos * 2 ^ (attempt - 1)
    (policy.delay attempt).nanos =
      (if attempt ≤ 32 then min doubled policy.ceiling.nanos else policy.ceiling.nanos) ∧
    ((policy.delay attempt).nanos = min doubled policy.ceiling.nanos ↔
      attempt ≤ 32 ∨ policy.ceiling.nanos ≤ doubled) := by
  intro doubled
  by_cases h : attempt ≤ 32
  · have hdelay := policy.nanos_delay_of_le h
    rw [if_pos h]
    exact ⟨hdelay, fun _ => .inl h, fun _ => hdelay⟩
  · have hdelay := policy.nanos_delay_of_lt (Nat.lt_of_not_le h)
    rw [if_neg h, hdelay]
    refine ⟨rfl, ?_⟩
    constructor
    · intro heq
      exact .inr (heq.trans_le (Nat.min_le_left _ _))
    · intro hreached
      exact (Nat.min_eq_right (hreached.resolve_left h)).symm

/-- An empty first pause stays empty however often it is doubled, but attempt 33 waits for as long
as the ceiling. -/
theorem delay_of_empty_base :
    let policy : Backoff := { maxAttempts := 40, base := .zero, ceiling := .ofSeconds 30 }
    (policy.delay 33).nanos = 30000000000 ∧
      min (policy.base.nanos * 2 ^ (33 - 1)) policy.ceiling.nanos = 0 := by
  intro policy
  have hceiling : policy.ceiling.nanos = 30000000000 := rfl
  rw [policy.nanos_delay_of_lt (by decide), hceiling]
  exact ⟨rfl, by decide⟩

end Backoff

end CommandChannel
