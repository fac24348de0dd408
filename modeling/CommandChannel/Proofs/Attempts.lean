import CommandChannel.Proofs.Pauses
import Mathlib.Data.Nat.Find

/-!
# Rounds of a pause and an attempt

Attempts are made in rounds, each of which begins with its pause. Rounds follow one another until an
attempt succeeds or as many attempts were made as are allowed, those of earlier times included. What
the attempts come to does not matter for the pauses: they never get shorter, and none is longer than
the ceiling.
-/

namespace CommandChannel

namespace Backoff

/-- The pauses before the next attempts, when so many were made. -/
def delays (policy : Backoff) (made count : Nat) : List Duration :=
  (List.range' (made + 1) count).map policy.delay

/-- Pauses never get shorter from one attempt to the next, however many attempts were made
before. -/
theorem pairwise_delays (policy : Backoff) (made count : Nat) :
    (policy.delays made count).Pairwise (· ≤ ·) :=
  List.pairwise_map.2 (List.pairwise_le_range'.imp policy.delay_le_delay)

/-- No pause is longer than the ceiling, whichever attempt it is made before. -/
theorem le_ceiling_of_mem_delays {policy : Backoff} {made count : Nat} {span : Duration}
    (h : span ∈ policy.delays made count) : span ≤ policy.ceiling := by
  obtain ⟨number, -, rfl⟩ := List.mem_map.1 h
  exact policy.delay_le_ceiling number

example :
    ({ maxAttempts := 3, base := .ofMillis 100, ceiling := .ofSeconds 1 } : Backoff).delays 0 3 =
      [.ofMillis 100, .ofMillis 200, .ofMillis 400] := by decide

/-- What is done in a round. -/
inductive Event where
  | paused (number : Nat) (span : Duration)
  | tried (succeeded : Bool)
deriving DecidableEq, Repr

/-- For how long it was paused. -/
def Event.span? : Event → Option Duration
  | .paused _ span => some span
  | .tried _ => none

section Rounds

variable {σ : Type} (policy : Backoff) (pause : Nat → Duration → σ → σ) (attempt : σ → Bool × σ)

/-- One more round, when so many attempts were made. -/
def round (made : Nat) (s : σ) : Bool × σ :=
  attempt (pause (made + 1) (policy.delay (made + 1)) s)

/-- So many rounds, whatever their attempts come to. -/
def rounds : Nat → Nat → σ → σ
  | 0, _, s => s
  | count + 1, made, s => rounds count (made + 1) (policy.round pause attempt made s).2

/-- What the attempt after so many rounds comes to, if it is made. -/
def outcome (count made : Nat) (s : σ) : Bool :=
  (policy.round pause attempt (made + count) (policy.rounds pause attempt count made s)).1

/-- What is done in so many rounds: in each its pause, and then its attempt. -/
def events (count made : Nat) (s : σ) : List Event :=
  (List.range count).flatMap fun earlier =>
    [.paused (made + earlier + 1) (policy.delay (made + earlier + 1)),
      .tried (policy.outcome pause attempt earlier made s)]

/-- A pause that is noted down. -/
def noting (number : Nat) (span : Duration) : σ × List Event → σ × List Event
  | (s, log) => (pause number span s, log ++ [.paused number span])

/-- An attempt that is noted down. -/
def noted : σ × List Event → Bool × σ × List Event
  | (s, log) =>
    match attempt s with
    | (succeeded, s) => (succeeded, s, log ++ [.tried succeeded])

/-- What comes of a later attempt is what comes of it after the first round. -/
theorem outcome_succ (count made : Nat) (s : σ) :
    policy.outcome pause attempt (count + 1) made s =
      policy.outcome pause attempt count (made + 1) (policy.round pause attempt made s).2 := by
  rw [outcome, outcome, rounds, Nat.add_right_comm, Nat.add_assoc]

/-- What is done in rounds is what is done in the first one, and then in those after it. -/
theorem events_succ (count made : Nat) (s : σ) :
    policy.events pause attempt (count + 1) made s =
      .paused (made + 1) (policy.delay (made + 1)) ::
        .tried (policy.round pause attempt made s).1 ::
        policy.events pause attempt count (made + 1) (policy.round pause attempt made s).2 := by
  rw [events, List.range_succ_eq_map, List.flatMap_cons, List.flatMap_map, events]
  simp only [outcome, rounds, Nat.add_zero, Nat.succ_eq_add_one,
    Nat.add_right_comm made 1, ← Nat.add_assoc]
  rfl

/-- The pauses of the rounds do not depend on what the attempts come to. They are those of the
numbers of the attempts. -/
theorem filterMap_span_events (count made : Nat) (s : σ) :
    (policy.events pause attempt count made s).filterMap Event.span? =
      policy.delays made count := by
  induction count generalizing made s with
  | zero => rfl
  | succ count ih =>
    rw [events_succ, delays, List.range'_succ, List.map_cons]
    exact congrArg (policy.delay (made + 1) :: ·) (ih _ _)

/-- Rounds whose steps are noted down are the same rounds, and what is noted is what is done in
them. So the log may be read as that of the very run it is about. -/
theorem rounds_noted (count made : Nat) (s : σ) (log : List Event) :
    policy.rounds (noting pause) (noted attempt) count made (s, log) =
      (policy.rounds pause attempt count made s,
        log ++ policy.events pause attempt count made s) := by
  induction count generalizing made s log with
  | zero => exact congrArg (Prod.mk s) (List.append_nil log).symm
  | succ count ih =>
    have hround : policy.round (noting pause) (noted attempt) made (s, log) =
        ((policy.round pause attempt made s).1, (policy.round pause attempt made s).2,
          log ++ [.paused (made + 1) (policy.delay (made + 1))] ++
            [.tried (policy.round pause attempt made s).1]) := rfl
    rw [rounds, rounds, events_succ, hround, ih]
    simp

/-- Noting steps down does not change what attempts come to, and so not when the rounds stop. -/
theorem outcome_noted (count made : Nat) (s : σ) (log : List Event) :
    policy.outcome (noting pause) (noted attempt) count made (s, log) =
      policy.outcome pause attempt count made s := by
  rw [outcome, rounds_noted]
  rfl

/-- While the budget lasts, another round is made, and it is the last one if it succeeds. This is
the step of the loop, on which the induction over the rounds that are left rests. -/
theorem run_of_lt {made : Nat} (hleft : made < policy.maxAttempts) (s : σ) :
    policy.run pause attempt made s =
      if (policy.round pause attempt made s).1 then
        (true, made + 1, (policy.round pause attempt made s).2)
      else policy.run pause attempt (made + 1) (policy.round pause attempt made s).2 := by
  have hleft : policy.mayRetry made = true := decide_eq_true hleft
  rw [run, dif_pos hleft, round]
  rcases attempt (pause (made + 1) (policy.delay (made + 1)) s) with ⟨up, t⟩
  cases up <;> rfl

/-- When rounds stop: with the first success, or with the budget where none of its attempts
succeeds. -/
inductive Stops (made : Nat) (s : σ) : Bool → Nat → Prop where
  | success {last : Nat} (hbudget : last < policy.maxAttempts - made)
      (hsuccess : policy.outcome pause attempt last made s = true)
      (hfailed : ∀ earlier < last, policy.outcome pause attempt earlier made s = false) :
      Stops made s true (last + 1)
  | failure (hfailed : ∀ earlier < policy.maxAttempts - made,
      policy.outcome pause attempt earlier made s = false) :
      Stops made s false (policy.maxAttempts - made)

/-- Rounds always stop in one of the two ways, as there is a first success within the budget or none
at all. -/
theorem exists_stops (made : Nat) (s : σ) :
    ∃ succeeded count, policy.Stops pause attempt made s succeeded count := by
  by_cases hany : ∃ last < policy.maxAttempts - made,
      policy.outcome pause attempt last made s = true
  · obtain ⟨hbudget, hsuccess⟩ := Nat.find_spec hany
    refine ⟨true, _, .success hbudget hsuccess ?_⟩
    intro earlier hearlier
    have hleast := Nat.find_min hany hearlier
    exact Bool.eq_false_iff.2 fun h => hleast ⟨hearlier.trans hbudget, h⟩
  · refine ⟨false, _, .failure ?_⟩
    intro earlier hearlier
    exact Bool.eq_false_iff.2 fun h => hany ⟨earlier, hearlier, h⟩

variable {policy pause attempt}

/-- Rounds are made up to the first success. The number of attempts that comes back includes the one
that succeeded. -/
theorem run_of_success {last made : Nat} {s : σ} (hbudget : last < policy.maxAttempts - made)
    (hsuccess : policy.outcome pause attempt last made s = true)
    (hfailed : ∀ earlier < last, policy.outcome pause attempt earlier made s = false) :
    policy.run pause attempt made s =
      (true, made + (last + 1), policy.rounds pause attempt (last + 1) made s) := by
  induction last generalizing made s with
  | zero =>
    have hround : (policy.round pause attempt made s).1 = true := hsuccess
    rw [run_of_lt _ _ _ (by omega), if_pos hround]
    rfl
  | succ last ih =>
    have hround : (policy.round pause attempt made s).1 = false := hfailed 0 (Nat.succ_pos _)
    have hlater (earlier : Nat) (h : earlier < last) :=
      (policy.outcome_succ pause attempt earlier made s).symm.trans
        (hfailed (earlier + 1) (Nat.succ_lt_succ h))
    rw [outcome_succ] at hsuccess
    rw [run_of_lt _ _ _ (by omega), if_neg (by simp [hround]), ih (by omega) hsuccess hlater,
      Nat.add_assoc made 1, Nat.add_comm 1]
    rfl

/-- Rounds are made up to the budget if no attempt within it succeeds. No round is made if the
budget is spent already. -/
theorem run_of_failure {made : Nat} {s : σ}
    (hfailed : ∀ earlier < policy.maxAttempts - made,
      policy.outcome pause attempt earlier made s = false) :
    policy.run pause attempt made s =
      (false, made + (policy.maxAttempts - made),
        policy.rounds pause attempt (policy.maxAttempts - made) made s) := by
  generalize hbudget : policy.maxAttempts - made = budget at hfailed ⊢
  induction budget generalizing made s with
  | zero =>
    have hspent : ¬ policy.mayRetry made = true := by
      simpa [mayRetry] using Nat.le_of_sub_eq_zero hbudget
    rw [run, dif_neg hspent]
    rfl
  | succ budget ih =>
    have hround : (policy.round pause attempt made s).1 = false := hfailed 0 (Nat.succ_pos _)
    have hlater (earlier : Nat) (h : earlier < budget) :=
      (policy.outcome_succ pause attempt earlier made s).symm.trans
        (hfailed (earlier + 1) (Nat.succ_lt_succ h))
    rw [run_of_lt _ _ _ (by omega), if_neg (by simp [hround]), ih (by omega) hlater,
      Nat.add_assoc made 1, Nat.add_comm 1]
    rfl

namespace Stops

variable {made count : Nat} {s : σ} {succeeded : Bool}

/-- Where rounds stop, the loop stops: with the same result, the same number of attempts and the
same state. -/
theorem run_eq (h : policy.Stops pause attempt made s succeeded count) :
    policy.run pause attempt made s =
      (succeeded, made + count, policy.rounds pause attempt count made s) := by
  cases h with
  | success hbudget hsuccess hfailed => exact run_of_success hbudget hsuccess hfailed
  | failure hfailed => exact run_of_failure hfailed

/-- Rounds stop at the same point if their steps are noted down. -/
theorem noted (h : policy.Stops pause attempt made s succeeded count) (log : List Event) :
    policy.Stops (noting pause) (noted attempt) made (s, log) succeeded count := by
  have houtcome (count : Nat) := policy.outcome_noted pause attempt count made s log
  cases h with
  | success hbudget hsuccess hfailed =>
    exact .success hbudget ((houtcome _).trans hsuccess)
      fun earlier h => (houtcome earlier).trans (hfailed earlier h)
  | failure hfailed => exact .failure fun earlier h => (houtcome earlier).trans (hfailed earlier h)

/-- No more rounds are made than the budget allows after the attempts that were made before. -/
theorem le_budget (h : policy.Stops pause attempt made s succeeded count) :
    count ≤ policy.maxAttempts - made := by
  cases h with
  | success hbudget _ _ => exact hbudget
  | failure _ => exact Nat.le_refl _

/-- Rounds end in a success exactly if some attempt within the budget is one. -/
theorem succeeded_iff (h : policy.Stops pause attempt made s succeeded count) :
    succeeded = true ↔ ∃ earlier < policy.maxAttempts - made,
      policy.outcome pause attempt earlier made s = true := by
  cases h with
  | success hbudget hsuccess _ => exact ⟨fun _ => ⟨_, hbudget, hsuccess⟩, fun _ => rfl⟩
  | failure hfailed =>
    refine ⟨nofun, ?_⟩
    rintro ⟨earlier, hbudget, hsuccess⟩
    rw [hfailed earlier hbudget] at hsuccess
    exact hsuccess

end Stops

variable (policy pause attempt)

/-- Rounds are made up to the first attempt within the budget that succeeds, and up to the budget if
there is none; so none is made if the budget is spent. Each begins with one pause, as long as its
number asks for, and nothing follows its attempt. The counter goes up by the rounds that are made,
to the budget if none succeeds, and stays within the range of 32 bits if the budget does. The pauses
never get shorter, and none is longer than the ceiling. -/
theorem run_stops_at_success_or_budget (made : Nat) (s : σ) :
    ∃ succeeded count,
      let log := policy.events pause attempt count made s
      policy.run pause attempt made s =
        (succeeded, made + count, policy.rounds pause attempt count made s) ∧
      policy.run (noting pause) (noted attempt) made (s, []) =
        (succeeded, made + count, policy.rounds pause attempt count made s, log) ∧
      count ≤ policy.maxAttempts - made ∧
      (policy.maxAttempts ≤ made → count = 0 ∧ log = []) ∧
      (succeeded = true ↔ ∃ earlier < policy.maxAttempts - made,
        policy.outcome pause attempt earlier made s = true) ∧
      (succeeded = true → ∃ last, count = last + 1 ∧
        policy.outcome pause attempt last made s = true ∧
        ∀ earlier < last, policy.outcome pause attempt earlier made s = false) ∧
      (succeeded = false → count = policy.maxAttempts - made ∧
        (made ≤ policy.maxAttempts → made + count = policy.maxAttempts)) ∧
      (policy.maxAttempts < UInt32.size → ∀ earlier < count,
        (UInt32.ofNat (made + earlier) + 1).toNat = made + earlier + 1) ∧
      (log.filterMap Event.span?).Pairwise (· ≤ ·) ∧
      ∀ span ∈ log.filterMap Event.span?, span ≤ policy.ceiling := by
  obtain ⟨succeeded, count, hstops⟩ := policy.exists_stops pause attempt made s
  have hbudget := hstops.le_budget
  have hspans := policy.filterMap_span_events pause attempt count made s
  refine ⟨succeeded, count, hstops.run_eq, ?_, hbudget, ?_, hstops.succeeded_iff, ?_, ?_, ?_, ?_,
    ?_⟩
  · rw [(hstops.noted []).run_eq, rounds_noted, List.nil_append]
  · intro hspent
    obtain rfl : count = 0 := by omega
    exact ⟨rfl, rfl⟩
  · rintro rfl
    cases hstops with
    | success _ hsuccess hfailed => exact ⟨_, rfl, hsuccess, hfailed⟩
  · rintro rfl
    cases hstops with
    | failure _ => exact ⟨rfl, Nat.add_sub_cancel'⟩
  · intro hsize earlier hearlier
    have hfits : made + earlier + 1 < UInt32.size := by omega
    rw [UInt32.toNat_add, UInt32.toNat_ofNat', UInt32.toNat_one,
      Nat.mod_eq_of_lt (Nat.lt_of_succ_lt hfits), Nat.mod_eq_of_lt hfits]
  · rw [hspans]
    exact policy.pairwise_delays made count
  · rw [hspans]
    intro span hspan
    exact le_ceiling_of_mem_delays hspan

end Rounds

end Backoff

end CommandChannel
