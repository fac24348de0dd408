/-!
# Spans of time

A span is a whole number of nanoseconds whose seconds fit in 64 bits. Moments are spans counted
from a common start. Sums saturate at the longest span, differences at the empty one, so that no
clock ever runs backwards; a product that leaves the range is reported instead.
-/

namespace CommandChannel

/-- The number of nanoseconds in a second. -/
def nanosPerSecond : Nat := 1000000000

/-- Spans are shorter than 2^64 seconds. -/
def spanBound : Nat := Nat.pow 2 64 * nanosPerSecond

/-- A span of time in whole nanoseconds, below 2^64 seconds. -/
structure Duration where
  /-- Length of the span in nanoseconds. -/
  nanos : Nat
  /-- The whole seconds fit in 64 bits. -/
  nanos_lt : nanos < spanBound
deriving DecidableEq, Repr

namespace Duration

/-- The empty span. -/
def zero : Duration := ⟨0, by decide⟩

instance : Inhabited Duration := ⟨zero⟩

/-- The longest span. -/
def longest : Duration := ⟨spanBound - 1, by decide⟩

/-- The span of `n` nanoseconds, or the longest span if that is out of range. -/
def ofNanos (n : Nat) : Duration :=
  if h : n < spanBound then ⟨n, h⟩ else longest

/-- The span of `s` seconds and `n` nanoseconds. -/
def ofParts (s n : Nat) : Duration := ofNanos (s * nanosPerSecond + n)

/-- The span of `s` seconds. -/
def ofSeconds (s : Nat) : Duration := ofParts s 0

/-- The span of `ms` milliseconds. -/
def ofMillis (ms : Nat) : Duration := ofNanos (ms * 1000000)

/-- Whole seconds of a span. -/
def seconds (d : Duration) : Nat := d.nanos / nanosPerSecond

/-- Nanoseconds beyond the whole seconds. -/
def subsecondNanos (d : Duration) : Nat := d.nanos % nanosPerSecond

/-- The span is empty. -/
def isZero (d : Duration) : Bool := d.nanos == 0

instance : LE Duration := ⟨fun a b => a.nanos ≤ b.nanos⟩

instance : LT Duration := ⟨fun a b => a.nanos < b.nanos⟩

instance (a b : Duration) : Decidable (a ≤ b) := inferInstanceAs (Decidable (a.nanos ≤ b.nanos))

instance (a b : Duration) : Decidable (a < b) := inferInstanceAs (Decidable (a.nanos < b.nanos))

instance : Min Duration := ⟨fun a b => if a ≤ b then a else b⟩

instance : Max Duration := ⟨fun a b => if a ≤ b then b else a⟩

instance : Add Duration := ⟨fun a b => ofNanos (a.nanos + b.nanos)⟩

/-- The shorter span is taken off the longer; the difference of a longer one is empty. -/
instance : Sub Duration :=
  ⟨fun a b => ⟨a.nanos - b.nanos, Nat.lt_of_le_of_lt (Nat.sub_le _ _) a.nanos_lt⟩⟩

/-- The `k`-fold span, if its seconds still fit. -/
def checkedMul (d : Duration) (k : Nat) : Option Duration :=
  if h : d.nanos * k < spanBound then some ⟨d.nanos * k, h⟩ else none

/-- Spans are compared by their lengths. Written out as an equivalence, so that linear arithmetic
over the lengths can decide a comparison. -/
theorem le_iff {a b : Duration} : a ≤ b ↔ a.nanos ≤ b.nanos := Iff.rfl

/-- The strict comparison is one of lengths too, and as such decided by linear arithmetic. -/
theorem lt_iff {a b : Duration} : a < b ↔ a.nanos < b.nanos := Iff.rfl

/-- Two spans of the same length are the same span. The bound that a span carries with it does not
tell spans apart. -/
@[ext] theorem ext {a b : Duration} (h : a.nanos = b.nanos) : a = b := by
  cases a; cases b; simp_all

/-- The empty span has no length, so that adding it to a moment moves nothing. -/
@[simp] theorem nanos_zero : zero.nanos = 0 := rfl

/-- Making a span of a number keeps the number up to the length of the longest span, at which it
stops. -/
theorem nanos_ofNanos (n : Nat) :
    (ofNanos n).nanos = Nat.min n (spanBound - 1) := by
  unfold ofNanos
  split
  · rename_i h
    exact (Nat.min_eq_left (Nat.le_sub_one_of_lt h)).symm
  · rename_i h
    exact (Nat.min_eq_right (Nat.le_trans (Nat.sub_le _ _) (Nat.le_of_not_lt h))).symm

/-- The length of a sum is the sum of the lengths, up to that of the longest span. So moments never
run past the end of the range, and adding to them is not a failure. -/
theorem nanos_add (a b : Duration) :
    (a + b).nanos = Nat.min (a.nanos + b.nanos) (spanBound - 1) :=
  nanos_ofNanos _

/-- The length of a difference is the difference of the lengths, where nothing goes below zero. -/
@[simp] theorem nanos_sub (a b : Duration) : (a - b).nanos = a.nanos - b.nanos := rfl

/-- No span is longer than the longest one. This is the bound of a span in the form in which sums
are cut off at it. -/
theorem nanos_le (a : Duration) : a.nanos ≤ spanBound - 1 :=
  Nat.le_sub_one_of_lt a.nanos_lt

/-- A moment before some other one is moved on by any span that is not empty. So waiting in steps
for a later moment makes progress with each of them. -/
theorem lt_add {a b step : Duration} (h : a < b) (hstep : 0 < step.nanos) : a < a + step := by
  have hmin (m : Nat) (hm : a.nanos < m) : a.nanos < Nat.min (a.nanos + step.nanos) m :=
    Nat.lt_min.2 ⟨Nat.lt_add_of_pos_right hstep, hm⟩
  rw [lt_iff, nanos_add]
  exact hmin _ (Nat.lt_of_lt_of_le (lt_iff.1 h) b.nanos_le)

end Duration

end CommandChannel
