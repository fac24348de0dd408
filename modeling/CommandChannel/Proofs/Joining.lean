import Mathlib.Algebra.Order.Floor.Div
import CommandChannel.Proofs.Clocks
import CommandChannel.Proofs.Disconnecting
import CommandChannel.Session.Basic

/-!
# Awaiting the end of a monitor

Whoever awaits the end of a monitor looks at it at once and then after each step of sleep, up to the
first look that finds that it has ended or that the deadline is over. The end is asked for first. So
an end up to the deadline is never missed, though the deadline may lie between two looks, and an end
after the deadline is noticed too if there was no look in between. The wait is over less than a step
after the deadline, whatever the monitor does.

In a session a monitor that was told to end has done so by the first look, unless it is held. One
that is held is awaited in vain, for just as long as is allowed.
-/

namespace CommandChannel

namespace Heartbeat

/-- The moment after so many steps. -/
def momentAfter (step now : Duration) (count : Nat) : Duration := Nat.repeat (· + step) count now

/-- The least number of steps that leads up to a moment. -/
def stepsTo (step now moment : Duration) : Nat := (moment - now).nanos ⌈/⌉ step.nanos

section Steps

variable {step now moment : Duration} {count : Nat}

/-- After some steps their lengths have been added, up to the end of the range of moments. -/
theorem nanos_momentAfter (step now : Duration) (count : Nat) :
    (momentAfter step now count).nanos = min (now.nanos + count * step.nanos) (spanBound - 1) := by
  induction count with
  | zero =>
    rw [Nat.zero_mul]
    exact (Nat.min_eq_left now.nanos_le).symm
  | succ count ih =>
    have hnext : (momentAfter step now (count + 1)).nanos =
        min ((momentAfter step now count).nanos + step.nanos) (spanBound - 1) :=
      Duration.nanos_add _ step
    rw [hnext, ih, Nat.succ_mul]
    omega

/-- One step may be taken first and the others after it. This is how the loop takes them. -/
theorem momentAfter_add_step (step now : Duration) (count : Nat) :
    momentAfter step (now + step) count = momentAfter step now (count + 1) := by
  induction count with
  | zero => rfl
  | succ count ih => exact congrArg (· + step) ih

/-- A moment is reached by as many steps as lead up to it and by no fewer. So to compare moments is
to count steps, also at the end of the range. -/
theorem le_momentAfter_iff (hstep : 0 < step.nanos) :
    moment ≤ momentAfter step now count ↔ stepsTo step now moment ≤ count := by
  have hbound := moment.nanos_le
  rw [Duration.le_iff, nanos_momentAfter, stepsTo, ceilDiv_le_iff_le_mul hstep, Duration.nanos_sub,
    Nat.mul_comm step.nanos]
  omega

/-- The steps that lead up to a moment reach it, wherever they begin. -/
theorem le_momentAfter_stepsTo (hstep : 0 < step.nanos) (now moment : Duration) :
    moment ≤ momentAfter step now (stepsTo step now moment) :=
  (le_momentAfter_iff hstep).2 (Nat.le_refl _)

/-- No more steps lead up to an earlier moment, so the order of end and deadline shows in their
numbers of steps. -/
theorem stepsTo_le_stepsTo (hstep : 0 < step.nanos) {later : Duration} (h : moment ≤ later) :
    stepsTo step now moment ≤ stepsTo step now later :=
  (le_momentAfter_iff hstep).1 (Duration.le_trans h (le_momentAfter_stepsTo hstep now later))

/-- A moment is still ahead after fewer steps than lead up to it, and only then. -/
theorem momentAfter_lt_iff (hstep : 0 < step.nanos) :
    momentAfter step now count < moment ↔ count < stepsTo step now moment := by
  have hreached : moment ≤ momentAfter step now count ↔ stepsTo step now moment ≤ count :=
    le_momentAfter_iff hstep
  rw [Duration.le_iff] at hreached
  rw [Duration.lt_iff]
  omega

/-- The steps that lead up to a moment pass it by less than one of them. This bounds how late
anything is noticed. -/
theorem stepsTo_mul_lt (hstep : 0 < step.nanos) (now moment : Duration) :
    stepsTo step now moment * step.nanos < (moment - now).nanos + step.nanos := by
  have hfloor := Nat.div_mul_le_self ((moment - now).nanos + step.nanos - 1) step.nanos
  rw [← Nat.ceilDiv_eq_add_pred_div] at hfloor
  unfold stepsTo
  omega

/-- Steps that make up a span lead up to its end and no further. -/
theorem momentAfter_stepsTo_add (hstep : 0 < step.nanos) (now : Duration) {span : Duration}
    (hspan : span.nanos = count * step.nanos) :
    momentAfter step now (stepsTo step now (now + span)) = now + span := by
  have hend : momentAfter step now count = now + span := by
    apply Duration.ext
    rw [nanos_momentAfter, Duration.nanos_add, hspan]
  have hfew : stepsTo step now (now + span) ≤ count :=
    (le_momentAfter_iff hstep).1 (hend ▸ Duration.le_refl _)
  -- Near the longest span fewer steps may do, but these stop at the same moment.
  have hreached := le_momentAfter_stepsTo hstep now (now + span)
  rw [← hend] at hfew hreached ⊢
  apply Duration.ext
  rw [Duration.le_iff] at hreached
  simp only [nanos_momentAfter] at hreached ⊢
  have hsteps := Nat.mul_le_mul_right step.nanos hfew
  omega

end Steps

/-! ## Looks -/

/-- Whether the monitor has ended, if a look decides that. -/
def look (finish : Option Duration) (deadline now : Duration) : Option Bool :=
  if finish.any (· ≤ now) then some true else if now < deadline then none else some false

/-- The number of steps before the look that decides. -/
def stepsToDecision (step now deadline : Duration) (finish : Option Duration) : Nat :=
  finish.elim (stepsTo step now deadline) fun moment =>
    min (stepsTo step now moment) (stepsTo step now deadline)

section Looks

variable {step now deadline : Duration} {finish : Option Duration} {count : Nat}

/-- What the looks show depends on no more than how many steps went before. -/
theorem look_momentAfter (hstep : 0 < step.nanos) :
    look finish deadline (momentAfter step now count) =
      if finish.any (stepsTo step now · ≤ count) then some true
      else if count < stepsTo step now deadline then none
      else some false := by
  simp only [look, le_momentAfter_iff hstep, momentAfter_lt_iff hstep]

/-- No look decides before as many steps as lead up to the end or to the deadline. -/
theorem look_of_lt_stepsToDecision (hstep : 0 < step.nanos)
    (h : count < stepsToDecision step now deadline finish) :
    look finish deadline (momentAfter step now count) = none := by
  rw [look_momentAfter hstep]
  cases finish with
  | none => exact if_pos h
  | some moment =>
    obtain ⟨hmoment, hdeadline⟩ := Nat.lt_min.1 h
    rw [if_neg (by simpa using hmoment), if_pos hdeadline]

/-- The look after these steps decides: the monitor has ended if the end takes no more of them than
the deadline. -/
theorem look_stepsToDecision (hstep : 0 < step.nanos) :
    look finish deadline (momentAfter step now (stepsToDecision step now deadline finish)) =
      some (finish.any (stepsTo step now · ≤ stepsTo step now deadline)) := by
  rw [look_momentAfter hstep]
  cases finish with
  | none => exact if_neg (Nat.lt_irrefl _)
  | some moment =>
    simp only [Option.any_some, stepsToDecision, Option.elim_some]
    by_cases h : stepsTo step now moment ≤ stepsTo step now deadline
    · simp [h]
    · simp [h, Nat.le_of_not_le h]

/-- A look that decides is the last one, and no step is slept before it. -/
theorem awaitInSteps_of_look_eq_some (hstep : 0 < step.nanos) {ended : Bool}
    (h : look finish deadline now = some ended) :
    awaitInSteps step hstep finish deadline now = (ended, 0, now) := by
  unfold look at h
  rw [awaitInSteps]
  split at h
  · rename_i hended
    cases h
    rw [if_pos hended]
  · rename_i hrunning
    split at h
    · cases h
    · rename_i hover
      cases h
      rw [if_neg hrunning, dif_neg hover]

/-- A look that does not decide is followed by a step of sleep, and then by the rest of the wait. -/
theorem awaitInSteps_of_look_eq_none (hstep : 0 < step.nanos) {ended : Bool} {later : Duration}
    (h : look finish deadline now = none)
    (hlater : awaitInSteps step hstep finish deadline (now + step) = (ended, count, later)) :
    awaitInSteps step hstep finish deadline now = (ended, count + 1, later) := by
  unfold look at h
  rw [awaitInSteps]
  split at h
  · cases h
  · rename_i hrunning
    split at h
    · rename_i hintime
      rw [if_neg hrunning, dif_pos hintime, hlater]
    · cases h

/-- The wait lasts up to the first look that decides. The induction is on the looks before it. -/
theorem awaitInSteps_of_first_look (hstep : 0 < step.nanos) {ended : Bool}
    (hbefore : ∀ k < count, look finish deadline (momentAfter step now k) = none)
    (hlast : look finish deadline (momentAfter step now count) = some ended) :
    awaitInSteps step hstep finish deadline now = (ended, count, momentAfter step now count) := by
  induction count generalizing now with
  | zero => exact awaitInSteps_of_look_eq_some hstep hlast
  | succ count ih =>
    -- What is left after the first step is a wait of its own, a step later and shorter by a look.
    have hfirst : look finish deadline now = none := hbefore 0 (Nat.succ_pos count)
    rw [← momentAfter_add_step] at hlast ⊢
    refine awaitInSteps_of_look_eq_none hstep hfirst (ih (fun k hk => ?_) hlast)
    rw [momentAfter_add_step]
    exact hbefore (k + 1) (Nat.succ_lt_succ hk)

/-- The wait lasts for as many steps as lead up to the end or to the deadline, whichever takes
fewer. The end is noticed if it takes no more than the deadline. -/
theorem awaitInSteps_eq (step : Duration) (hstep : 0 < step.nanos) (finish : Option Duration)
    (deadline now : Duration) :
    awaitInSteps step hstep finish deadline now =
      (finish.any (stepsTo step now · ≤ stepsTo step now deadline),
        stepsToDecision step now deadline finish,
        momentAfter step now (stepsToDecision step now deadline finish)) :=
  awaitInSteps_of_first_look hstep (fun _ => look_of_lt_stepsToDecision hstep)
    (look_stepsToDecision hstep)

example : await (some (.ofMillis 7)) (.ofMillis 6) .zero = (true, 2, .ofMillis 10) := by
  rw [await, awaitInSteps_eq]
  decide

end Looks

/-! ## The wait -/

section Joins

variable {step now limit deadline moment : Duration} {finish : Option Duration}

/-- What whoever awaits the end of a monitor from a moment on keeps to. The monitor ends at a moment
of its own, if it ever does. -/
structure Joins (step : Duration) (finish : Option Duration) (limit now : Duration) (ended : Bool)
    (steps : Nat) (later : Duration) : Prop where
  /-- Time is spent on whole steps of sleep, and on nothing else. -/
  later_eq : later = momentAfter step now steps
  /-- A step is slept only where neither the deadline nor the end was reached by then. -/
  running : ∀ k < steps, momentAfter step now k < now + limit ∧
    ∀ moment ∈ finish, momentAfter step now k < moment
  /-- An end up to the deadline is never missed. -/
  notices : ∀ moment ∈ finish, moment.nanos ≤ now.nanos + limit.nanos → ended = true
  /-- An end is noticed by the first look that does not precede it. -/
  found : ended = true → ∃ moment ∈ finish, moment ≤ later ∧
    ∀ k < steps, momentAfter step now k < moment
  /-- A monitor is given up only by a look that does not precede the deadline and finds it
  running. -/
  gives_up : ended = false → now + limit ≤ later ∧ ∀ moment ∈ finish, later < moment
  /-- The steps that are slept exceed the limit by less than one of them. -/
  slept_lt : steps * step.nanos < limit.nanos + step.nanos
  /-- So does the time that passes. -/
  spent_lt : (later - now).nanos < limit.nanos + step.nanos

/-- No more steps are slept than lead up to the deadline. -/
theorem stepsToDecision_le_deadline (step now deadline : Duration) (finish : Option Duration) :
    stepsToDecision step now deadline finish ≤ stepsTo step now deadline := by
  cases finish with
  | none => exact Nat.le_refl _
  | some moment => exact Nat.min_le_right _ _

/-- No more steps are slept than lead up to the end, if there is one. -/
theorem stepsToDecision_le_end (h : moment ∈ finish) :
    stepsToDecision step now deadline finish ≤ stepsTo step now moment := by
  cases h
  exact Nat.min_le_left _ _

/-- Where the end decides, as many steps are slept as lead up to it. -/
theorem exists_stepsToDecision_eq
    (h : finish.any (stepsTo step now · ≤ stepsTo step now deadline) = true) :
    ∃ moment ∈ finish, stepsToDecision step now deadline finish = stepsTo step now moment := by
  cases finish with
  | none => cases h
  | some moment => exact ⟨moment, rfl, Nat.min_eq_left (of_decide_eq_true h)⟩

/-- Where the deadline decides, more steps than are slept lead up to the end. -/
theorem stepsToDecision_eq_deadline
    (h : finish.any (stepsTo step now · ≤ stepsTo step now deadline) = false) :
    stepsToDecision step now deadline finish = stepsTo step now deadline ∧
      ∀ moment ∈ finish, stepsTo step now deadline < stepsTo step now moment := by
  cases finish with
  | none => exact ⟨rfl, nofun⟩
  | some moment =>
    have hlater := Nat.lt_of_not_le (of_decide_eq_false h)
    refine ⟨Nat.min_eq_right (Nat.le_of_lt hlater), ?_⟩
    rintro _ ⟨⟩
    exact hlater

/-- A wait in steps keeps to all that, whatever the step. So nothing of it rests on how long a step
is. -/
theorem joins_awaitInSteps (step : Duration) (hstep : 0 < step.nanos) (finish : Option Duration)
    (limit now : Duration) {ended : Bool} {steps : Nat} {later : Duration}
    (h : awaitInSteps step hstep finish (now + limit) now = (ended, steps, later)) :
    Joins step finish limit now ended steps later := by
  have hdeadline := stepsToDecision_le_deadline step now (now + limit) finish
  have hshort := stepsTo_mul_lt hstep now (now + limit)
  have hlimit : (now + limit - now).nanos ≤ limit.nanos := by
    have hsum : (now + limit).nanos ≤ now.nanos + limit.nanos := by
      rw [Duration.nanos_add]
      exact Nat.min_le_left _ _
    rw [Duration.nanos_sub]
    omega
  have hsteps := Nat.mul_le_mul_right step.nanos hdeadline
  rw [awaitInSteps_eq] at h
  cases h
  constructor
  case later_eq => rfl
  case running =>
    intro k hk
    constructor
    · exact (momentAfter_lt_iff hstep).2 (Nat.lt_of_lt_of_le hk hdeadline)
    · intro moment hmoment
      exact (momentAfter_lt_iff hstep).2 (Nat.lt_of_lt_of_le hk (stepsToDecision_le_end hmoment))
  case notices =>
    rintro moment hmoment hle
    have hbefore : moment ≤ now + limit := by
      rw [Duration.le_iff, Duration.nanos_add]
      exact Nat.le_min.2 ⟨hle, moment.nanos_le⟩
    cases hmoment
    exact decide_eq_true (stepsTo_le_stepsTo hstep hbefore)
  case found =>
    intro hended
    obtain ⟨moment, hmoment, hcount⟩ := exists_stepsToDecision_eq hended
    rw [hcount]
    refine ⟨moment, hmoment, le_momentAfter_stepsTo hstep now moment, fun k hk => ?_⟩
    exact (momentAfter_lt_iff hstep).2 hk
  case gives_up =>
    intro hended
    obtain ⟨hcount, hrunning⟩ := stepsToDecision_eq_deadline hended
    rw [hcount]
    refine ⟨le_momentAfter_stepsTo hstep now (now + limit), fun moment hmoment => ?_⟩
    exact (momentAfter_lt_iff hstep).2 (hrunning moment hmoment)
  case slept_lt => omega
  case spent_lt =>
    rw [Duration.nanos_sub, nanos_momentAfter]
    omega

/-- A monitor that never ends is awaited for as long as is allowed, if that is a whole number of
steps. -/
theorem awaitInSteps_none (hstep : 0 < step.nanos) {count : Nat}
    (hlimit : limit.nanos = count * step.nanos) :
    awaitInSteps step hstep none (now + limit) now =
      (false, stepsTo step now (now + limit), now + limit) := by
  have hend := momentAfter_stepsTo_add hstep now hlimit
  rw [awaitInSteps_eq]
  exact congrArg (fun later => (false, stepsTo step now (now + limit), later)) hend

end Joins

/-- With the limit that sessions use, which is a whole number of steps, a monitor that never ends is
given up just at the deadline. -/
theorem await_none (now : Duration) :
    await none joinLimit now = (false, stepsTo pollStep now (now + joinLimit), now + joinLimit) :=
  have hlimit : joinLimit.nanos = 400 * pollStep.nanos := by decide
  awaitInSteps_none pollStep_pos hlimit

/-- Nobody waits for a monitor that has ended, whatever the limit is. -/
theorem await_of_ended (limit now : Duration) : await (some now) limit now = (true, 0, now) := by
  have hlook : look (some now) (now + limit) now = some true :=
    if_pos (decide_eq_true now.le_refl)
  exact awaitInSteps_of_look_eq_some pollStep_pos hlook

end Heartbeat

/-! ## In a session -/

namespace World

/-- The steps of a sleep that began at a moment, the latest one first. -/
def sleeps (step now : Duration) (count : Nat) : List Entry :=
  ((List.range count).map fun k => ⟨Heartbeat.momentAfter step now (k + 1), .sleep step⟩).reverse

/-- Sleeping step after step takes the time on, and adds each step to the history at the moment at
which it ends. -/
theorem repeat_sleep_eq (step : Duration) (count : Nat) (w : World) :
    Nat.repeat (World.sleep step) count w =
      { w with
        now := Heartbeat.momentAfter step w.now count
        history := sleeps step w.now count ++ w.history } := by
  induction count with
  | zero => rfl
  | succ count ih =>
    have hnext : Nat.repeat (World.sleep step) (count + 1) w =
        (Nat.repeat (World.sleep step) count w).sleep step := rfl
    have hsleeps : sleeps step w.now (count + 1) =
        ⟨Heartbeat.momentAfter step w.now (count + 1), .sleep step⟩ :: sleeps step w.now count := by
      unfold sleeps
      rw [List.range_succ, List.map_append, List.reverse_append]
      rfl
    rw [hnext, ih, hsleeps]
    rfl

end World

namespace Session

/-- The session in which the end of a monitor begins to be awaited: one that sleeps is woken. -/
def roused (handle : Heartbeat.Handle) (s : Session) : Session :=
  match s.channel.world.threads[handle.thread]?.bind Heartbeat.Thread.deadline? with
  | some _ => s.wake handle.thread
  | none => s

/-- The moment at which a monitor ends that was woken: it has ended by now, or never will. -/
def endOf (handle : Heartbeat.Handle) (s : Session) : Option Duration :=
  match s.channel.world.threads[handle.thread]? with
  | some thread => if thread.phase = .finished then some s.channel.now else none
  | none => some s.channel.now

section Join

variable {handle : Heartbeat.Handle} {s : Session} {ended : Bool} {steps : Nat} {later : Duration}

/-- To await the end of a monitor is to sleep step after step, and to tell so where that was in
vain. -/
theorem join_eq_sleep
    (h : Heartbeat.await ((s.roused handle).endOf handle) Heartbeat.joinLimit
      (s.roused handle).channel.now = (ended, steps, later)) :
    s.join handle =
      let slept := (s.roused handle).mapWorld (Nat.repeat (World.sleep Heartbeat.pollStep) steps)
      if ended then slept
      else slept.mapWorld (·.tell (.heartbeatDetached handle.epoch Heartbeat.joinLimit)) := by
  -- The wait is up to the clock. It is any function here, or the kernel would try to run it.
  generalize hjoin : Session.join = join
  unfold Session.join at hjoin
  generalize Heartbeat.await = await at hjoin h
  subst hjoin
  beta_reduce
  extract_lets woken finish
  have hwoken : woken = s.roused handle := rfl
  have hfinish : finish = (s.roused handle).endOf handle := rfl
  clear_value finish woken
  subst hwoken hfinish
  rw [h]

/-- Nothing is done while the end of a monitor is awaited but to sleep and, if that was in vain, to
tell so. -/
theorem join_eq
    (h : Heartbeat.await ((s.roused handle).endOf handle) Heartbeat.joinLimit
      (s.roused handle).channel.now = (ended, steps, later)) :
    s.join handle = (s.roused handle).mapWorld fun w =>
      { w with
        now := later
        history :=
          (if ended then []
            else [⟨later, .notice (.heartbeatDetached handle.epoch Heartbeat.joinLimit)⟩]) ++
          World.sleeps Heartbeat.pollStep w.now steps ++ w.history } := by
  have hlater := (Heartbeat.joins_awaitInSteps _ Heartbeat.pollStep_pos _ _ _ h).later_eq
  rw [join_eq_sleep h, hlater]
  cases ended with
  | true =>
    unfold mapWorld
    rw [World.repeat_sleep_eq]
    rfl
  | false =>
    unfold mapWorld
    dsimp only
    rw [World.repeat_sleep_eq]
    rfl

/-- The wait takes the time that it takes by the clock: telling of it takes none. -/
theorem now_join_eq
    (h : Heartbeat.await ((s.roused handle).endOf handle) Heartbeat.joinLimit
      (s.roused handle).channel.now = (ended, steps, later)) :
    (s.join handle).channel.now = later := by
  rw [join_eq h]
  rfl

end Join

end Session

/-! ## Ending a connection -/

namespace Link

/-- Writing a frame leaves all monitors as they are, as it concerns a connection alone. -/
theorem threads_writeEncoded (frame : List UInt8) (link : Link) (w : World) :
    (link.writeEncoded frame w).2.2.threads = w.threads := by
  unfold writeEncoded recordWrite
  simp only
  split <;> rfl

/-- Writing to a connection leaves all monitors as they are, whether there is a frame or not. -/
theorem threads_write (payload : Payload) (link : Link) (w : World) :
    (link.write payload w).2.2.threads = w.threads := by
  unfold write
  split
  · rfl
  · rename_i frame _
    have hwritten := threads_writeEncoded frame link w
    split <;> rename_i heq <;> rwa [heq] at hwritten

end Link

namespace Channel

/-- Offering the closing frame leaves all monitors as they are, whether there is a connection or
not. -/
theorem threads_sendClose (s : Channel) : s.sendClose.world.threads = s.world.threads := by
  unfold sendClose
  split
  · rfl
  · rename_i link _
    split
    · have hwritten := link.threads_write (.command .close) s.world
      rcases hwrite : link.write (.command .close) s.world with ⟨_ | _, link', w⟩ <;>
        rw [hwrite] at hwritten
      · exact hwritten
      · exact hwritten
    · rfl

/-- Giving the connection up leaves the monitors as stopping the one that is held left them. -/
theorem threads_release (s : Channel) :
    s.release.world.threads = s.stopHeartbeat.2.world.threads := by
  unfold release closeLink
  split
  · exact s.stopHeartbeat.2.threads_sendClose
  · exact s.stopHeartbeat.2.threads_sendClose

/-- A change of the state leaves all monitors as they are. -/
theorem threads_transition (next : LinkState) (s : Channel) :
    (s.transition next).world.threads = s.world.threads := by
  unfold transition
  simp only
  split <;> rfl

/-- The monitor that was told to end is handed over to whoever ends the connection, so that its end
can be awaited. -/
theorem handle_disconnect (s : Channel) : s.disconnect.1 = s.manager.heartbeat := by
  have hstopping : s.disconnect.1 = s.stopHeartbeat.1 := rfl
  rw [hstopping]
  unfold stopHeartbeat
  split <;> rename_i heq <;> exact heq.symm

/-- Ending a connection tells its monitor to end, and leaves all monitors as they are otherwise. -/
theorem threads_disconnect {s : Channel} {handle : Heartbeat.Handle}
    (h : s.manager.heartbeat = some handle) :
    s.disconnect.2.world.threads =
      s.world.threads.modify handle.thread fun t => { t with stopped := true } := by
  have hstopped : s.stopHeartbeat.2.world.threads =
      s.world.threads.modify handle.thread fun t => { t with stopped := true } := by
    unfold stopHeartbeat
    rw [h]
    rfl
  rw [← hstopped, ← threads_release]
  rcases s.disconnect_cases with heq | ⟨f, notice, heq⟩
  · rw [heq, threads_transition]
  · rw [heq, threads_transition]
    rfl

end Channel

/-- The monitor is about to ask for a sign of life. -/
def Heartbeat.Phase.isHeld : Heartbeat.Phase → Bool
  | .held _ => true
  | _ => false

namespace Session

/-- The monitor of a handle is held. -/
def holds (handle : Heartbeat.Handle) (s : Session) : Bool :=
  s.channel.world.threads[handle.thread]?.any (·.phase.isHeld)

section Ending

variable {handle : Heartbeat.Handle} {s : Session} {thread : Heartbeat.Thread}

/-- The end of a monitor that is there: at this moment if it has ended, and never if it has not. -/
theorem endOf_of_some (h : s.channel.world.threads[handle.thread]? = some thread) :
    s.endOf handle = if thread.phase = .finished then some s.channel.now else none := by
  unfold endOf
  rw [h]

/-- A monitor that was told to end does so when it is woken, without asking for anything. -/
theorem wake_of_stopped (h : s.channel.world.threads[handle.thread]? = some thread)
    (hstopped : thread.stopped = true) :
    s.wake handle.thread = s.finish handle.thread thread.epoch ∧
      (s.wake handle.thread).channel.world.threads[handle.thread]? =
        some { thread with phase := .finished } := by
  have hwake : s.wake handle.thread = s.finish handle.thread thread.epoch := by
    unfold wake
    rw [h]
    dsimp only
    rw [if_pos hstopped]
    rfl
  refine ⟨hwake, ?_⟩
  rw [hwake]
  change (s.channel.world.threads.modify _ _)[handle.thread]? = _
  rw [List.getElem?_modify_eq, h]
  rfl

/-- A monitor that was told to end has done so when it is looked at, unless it is held. One that is
held cannot end before it is let go. -/
theorem endOf_roused
    (hstopped : ∀ thread ∈ s.channel.world.threads[handle.thread]?, thread.stopped = true) :
    (s.roused handle).channel.now = s.channel.now ∧
      (s.roused handle).endOf handle = if s.holds handle then none else some s.channel.now := by
  unfold roused holds
  cases hthread : s.channel.world.threads[handle.thread]? with
  | none =>
    refine ⟨rfl, ?_⟩
    dsimp only [Option.bind_none]
    unfold endOf
    rw [hthread]
    rfl
  | some thread =>
    obtain ⟨epoch, interval, phase, stopped⟩ := thread
    cases phase with
    | asleep deadline =>
      obtain ⟨hwake, hended⟩ := wake_of_stopped hthread (hstopped _ hthread)
      change (s.wake handle.thread).channel.now = _ ∧ (s.wake handle.thread).endOf handle = _
      rw [endOf_of_some hended, hwake]
      exact ⟨rfl, rfl⟩
    | held idle =>
      change s.channel.now = _ ∧ s.endOf handle = _
      rw [endOf_of_some hthread]
      exact ⟨rfl, rfl⟩
    | finished =>
      change s.channel.now = _ ∧ s.endOf handle = _
      rw [endOf_of_some hthread]
      exact ⟨rfl, rfl⟩

/-- The end of a monitor that was told to end is awaited in no time unless it is held, and then for
as long as is allowed. -/
theorem now_join
    (hstopped : ∀ thread ∈ s.channel.world.threads[handle.thread]?, thread.stopped = true) :
    (s.join handle).channel.now =
      if s.holds handle then s.channel.now + Heartbeat.joinLimit else s.channel.now := by
  obtain ⟨hnow, hend⟩ := endOf_roused hstopped
  cases hholds : s.holds handle with
  | true =>
    have hawait := Heartbeat.await_none s.channel.now
    rw [hholds, if_pos rfl] at hend
    rw [← hnow, ← hend] at hawait
    rw [now_join_eq hawait, hnow, if_pos rfl]
  | false =>
    have hawait := Heartbeat.await_of_ended Heartbeat.joinLimit s.channel.now
    rw [hholds, if_neg Bool.false_ne_true] at hend
    rw [← hend, ← hnow] at hawait
    rw [now_join_eq hawait, hnow, if_neg Bool.false_ne_true]

end Ending

/-- Whoever ends a connection waits afterwards only if its monitor is held, and then for as long as
is allowed. -/
theorem now_disconnect (s : Session) :
    s.disconnect.channel.now =
      if s.channel.manager.heartbeat.any (s.holds ·) then
        s.channel.disconnect.2.now + Heartbeat.joinLimit
      else s.channel.disconnect.2.now := by
  have hhandle := s.channel.handle_disconnect
  cases hheld : s.channel.manager.heartbeat with
  | none =>
    have hdisconnect : s.disconnect = { s with channel := s.channel.disconnect.2 } := by
      rw [hheld] at hhandle
      unfold Session.disconnect
      generalize s.channel.disconnect = ended at hhandle ⊢
      obtain ⟨_, channel⟩ := ended
      cases hhandle
      rfl
    rw [hdisconnect]
    rfl
  | some handle =>
    let t : Session := { s with channel := s.channel.disconnect.2 }
    have hdisconnect : s.disconnect = t.join handle := by
      rw [hheld] at hhandle
      unfold Session.disconnect t
      generalize s.channel.disconnect = ended at hhandle ⊢
      obtain ⟨_, channel⟩ := ended
      cases hhandle
      rfl
    have hthread : t.channel.world.threads[handle.thread]? =
        s.channel.world.threads[handle.thread]?.map fun t => { t with stopped := true } := by
      unfold t
      dsimp only
      rw [Channel.threads_disconnect hheld, List.getElem?_modify_eq]
      rfl
    have hholds : t.holds handle = s.holds handle := by
      unfold holds
      rw [hthread, Option.any_map]
    have hstopped : ∀ thread ∈ t.channel.world.threads[handle.thread]?, thread.stopped = true := by
      rw [hthread]
      intro thread hmem
      obtain ⟨_, -, rfl⟩ := Option.map_eq_some_iff.1 hmem
      rfl
    rw [hdisconnect, now_join hstopped, hholds]
    rfl

end Session

namespace Heartbeat

/-- The end of a monitor is awaited by sleeping in steps of 5 ms. An end up to the deadline is
always noticed, by the first look that does not precede it. A monitor is given up only if it is
still running at a look that does not precede the deadline. The wait is over less than a step after
the limit. All this holds whenever the monitor ends, and if it never does. In a session the end of a
monitor is awaited in just this way, and nothing else is done meanwhile. -/
theorem await_ends_at_first_deciding_look :
    (∀ (finish : Option Duration) (limit now : Duration),
      ∃ ended steps later, await finish limit now = (ended, steps, later) ∧
        Joins (.ofMillis 5) finish limit now ended steps later) ∧
    ∀ (handle : Handle) (s : Session),
      let t := s.roused handle
      ∃ ended steps later,
        await (t.endOf handle) joinLimit t.channel.now = (ended, steps, later) ∧
        s.join handle = t.mapWorld fun w =>
          { w with
            now := later
            history :=
              (if ended then []
                else [⟨later, .notice (.heartbeatDetached handle.epoch joinLimit)⟩]) ++
              World.sleeps (.ofMillis 5) w.now steps ++ w.history } := by
  constructor
  · intro finish limit now
    rcases hawait : await finish limit now with ⟨ended, steps, later⟩
    have hjoins := joins_awaitInSteps pollStep pollStep_pos finish limit now hawait
    exact ⟨ended, steps, later, rfl, hjoins⟩
  · intro handle s t
    rcases hawait : await (t.endOf handle) joinLimit t.channel.now with ⟨ended, steps, later⟩
    exact ⟨ended, steps, later, rfl, Session.join_eq hawait⟩

end Heartbeat

end CommandChannel
