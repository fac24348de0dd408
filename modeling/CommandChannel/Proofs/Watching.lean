import Mathlib.Data.List.Chain
import CommandChannel.Heartbeat.Watch
import CommandChannel.Session.Basic
import CommandChannel.Proofs.Activity

/-!
# Turns of a monitor

What a monitor does in a turn depends on what wakes it and on the idle time it finds, and what it is
answered makes no difference to the turns that follow. After a sleep of an interval it finds an
interval of idle time at least, unless there was activity meanwhile: its own asking is over before
it falls asleep, and so delays nothing.

The monitors of a session take such turns. They watch a manager, the clock of which never runs
backwards and which was never active at a moment to come.
-/

namespace CommandChannel

namespace Heartbeat

section Turns

variable {σ : Type} {target : Target σ} {interval : Duration} {epoch : Nat}

/-- The monitor was woken by the clock, and what it watches is still there. -/
def Round.GoesOn (target : Target σ) (round : Round σ) : Prop :=
  round.wake = .clock ∧ target.isThere round.awake = true

instance (target : Target σ) (round : Round σ) : Decidable (round.GoesOn target) :=
  inferInstanceAs (Decidable (_ ∧ _))

/-- The time since the last activity when the monitor wakes up. -/
def Round.idle (target : Target σ) (round : Round σ) : Duration :=
  target.now round.awake - target.lastActivity round.awake

/-- What a monitor does in a round: it ends unless it goes on, and asks if the idle time is an
interval at least. -/
theorem action_eq (target : Target σ) (interval : Duration) (round : Round σ) :
    action interval round.wake (target.idle? round.awake) =
      if round.GoesOn target then
        if interval ≤ round.idle target then .probe (round.idle target) else .rest
      else .finish := by
  obtain ⟨wake, awake, asking⟩ := round
  unfold Target.idle?
  by_cases hthere : target.isThere awake = true
  · rw [if_pos hthere]
    cases wake with
    | stop | abandoned => rfl
    | clock =>
      rw [if_pos ⟨rfl, hthere⟩]
      rfl
  · rw [if_neg hthere, if_neg fun hgoes => hthere hgoes.2]
    cases wake <;> rfl

/-- All that can come of a turn: it ends, goes on sleeping or asks. In the first two cases what is
watched stays as it is. -/
theorem turn_cases (target : Target σ) (interval : Duration) (epoch : Nat) (asleep : σ)
    (round : Round σ) :
    (¬ round.GoesOn target ∧
      turn target interval epoch asleep round = ⟨asleep, round, .finish, none, round.awake⟩) ∨
    (round.GoesOn target ∧ ¬ interval ≤ round.idle target ∧
      turn target interval epoch asleep round = ⟨asleep, round, .rest, none, round.awake⟩) ∨
    (round.GoesOn target ∧ interval ≤ round.idle target ∧
      turn target interval epoch asleep round =
        ⟨asleep, round, .probe (round.idle target),
          some (epoch, (target.heartbeat epoch round.asking).1),
          (target.heartbeat epoch round.asking).2⟩) := by
  unfold turn
  rw [action_eq]
  by_cases hgoes : round.GoesOn target
  · rw [if_pos hgoes]
    by_cases hidle : interval ≤ round.idle target
    · rw [if_pos hidle]
      exact .inr (.inr ⟨hgoes, hidle, rfl⟩)
    · rw [if_neg hidle]
      exact .inr (.inl ⟨hgoes, hidle, rfl⟩)
  · rw [if_neg hgoes]
    exact .inl ⟨hgoes, rfl⟩

/-- A turn keeps the state in which the monitor was asleep. -/
theorem asleep_turn (asleep : σ) (round : Round σ) :
    (turn target interval epoch asleep round).asleep = asleep := by
  rcases turn_cases target interval epoch asleep round with
    ⟨-, heq⟩ | ⟨-, -, heq⟩ | ⟨-, -, heq⟩ <;> rw [heq]

/-- A turn keeps its round, so that the rounds of a watch may be read off its turns. -/
theorem round_turn (asleep : σ) (round : Round σ) :
    (turn target interval epoch asleep round).round = round := by
  rcases turn_cases target interval epoch asleep round with
    ⟨-, heq⟩ | ⟨-, -, heq⟩ | ⟨-, -, heq⟩ <;> rw [heq]

/-- The action of a turn is what the monitor does when it is woken. -/
theorem action_turn (asleep : σ) (round : Round σ) :
    (turn target interval epoch asleep round).action =
      action interval round.wake (target.idle? round.awake) := by
  rw [action_eq]
  rcases turn_cases target interval epoch asleep round with
    ⟨hends, heq⟩ | ⟨hgoes, hidle, heq⟩ | ⟨hgoes, hidle, heq⟩ <;> rw [heq]
  · rw [if_neg hends]
  · rw [if_pos hgoes, if_neg hidle]
  · rw [if_pos hgoes, if_pos hidle]

/-- A turn is the last one exactly if the monitor does not go on. -/
theorem action_turn_eq_finish_iff (asleep : σ) (round : Round σ) :
    (turn target interval epoch asleep round).action = .finish ↔ ¬ round.GoesOn target := by
  rcases turn_cases target interval epoch asleep round with
    ⟨hends, heq⟩ | ⟨hgoes, -, heq⟩ | ⟨hgoes, -, heq⟩ <;> rw [heq]
  · exact iff_of_true rfl hends
  · exact iff_of_false nofun (not_not_intro hgoes)
  · exact iff_of_false nofun (not_not_intro hgoes)

/-- The monitor asks where the clock has woken it and the idle time is an interval at least. -/
theorem exists_call_turn_iff (asleep : σ) (round : Round σ) (e : Nat) :
    (∃ alive, (turn target interval epoch asleep round).call = some (e, alive)) ↔
      e = epoch ∧ round.GoesOn target ∧ interval ≤ round.idle target := by
  rcases turn_cases target interval epoch asleep round with
    ⟨hends, heq⟩ | ⟨-, hidle, heq⟩ | ⟨hgoes, hidle, heq⟩ <;> rw [heq]
  · exact iff_of_false nofun fun h => hends h.2.1
  · exact iff_of_false nofun fun h => hidle h.2.2
  · constructor
    · rintro ⟨_, ⟨⟩⟩
      exact ⟨rfl, hgoes, hidle⟩
    · rintro ⟨rfl, -⟩
      exact ⟨_, rfl⟩

/-- A turn in which the monitor ends asks for nothing, not even if the connection has long been
idle. -/
theorem call_turn_of_ends {asleep : σ} {round : Round σ} (h : ¬ round.GoesOn target) :
    (turn target interval epoch asleep round).call = none := by
  rcases turn_cases target interval epoch asleep round with
    ⟨-, heq⟩ | ⟨hgoes, -⟩ | ⟨hgoes, -⟩
  · rw [heq]
  · exact absurd hgoes h
  · exact absurd hgoes h

/-! ## Turn after turn -/

/-- Where the monitor ends, no turns follow, whatever rounds are left. -/
theorem watch_of_ends {asleep : σ} {round : Round σ} {rounds : List (Round σ)}
    (h : ¬ round.GoesOn target) :
    watch target interval epoch asleep (round :: rounds) =
      [turn target interval epoch asleep round] :=
  if_pos ((action_turn_eq_finish_iff asleep round).2 h)

/-- Where the monitor goes on, the other turns follow, from the state that its turn left. -/
theorem watch_of_goesOn {asleep : σ} {round : Round σ} {rounds : List (Round σ)}
    (h : round.GoesOn target) :
    watch target interval epoch asleep (round :: rounds) =
      turn target interval epoch asleep round ::
        watch target interval epoch (turn target interval epoch asleep round).after rounds :=
  if_neg fun hfinish => (action_turn_eq_finish_iff asleep round).1 hfinish h

/-- The turns begin with that of the first round, whether others follow or not. -/
theorem exists_watch_eq_cons (asleep : σ) (round : Round σ) (rounds : List (Round σ)) :
    ∃ later, watch target interval epoch asleep (round :: rounds) =
      turn target interval epoch asleep round :: later := by
  by_cases hgoes : round.GoesOn target
  · exact ⟨_, watch_of_goesOn hgoes⟩
  · exact ⟨[], watch_of_ends hgoes⟩

/-- Every turn of a watch is the turn of some round. -/
theorem exists_turn_of_mem_watch {asleep : σ} {rounds : List (Round σ)} {t : Turn σ}
    (h : t ∈ watch target interval epoch asleep rounds) :
    ∃ asleep round, t = turn target interval epoch asleep round := by
  induction rounds generalizing asleep with
  | nil => cases h
  | cons round rounds ih =>
    by_cases hgoes : round.GoesOn target
    · rw [watch_of_goesOn hgoes, List.mem_cons] at h
      rcases h with rfl | h
      · exact ⟨asleep, round, rfl⟩
      · exact ih h
    · rw [watch_of_ends hgoes, List.mem_singleton] at h
      exact ⟨asleep, round, h⟩

/-- A turn begins in the state in which the one before it has ended, and only a turn that goes on is
followed by another one. -/
theorem isChain_watch (asleep : σ) (rounds : List (Round σ)) :
    (watch target interval epoch asleep rounds).IsChain fun a b =>
      a.round.GoesOn target ∧ b = turn target interval epoch a.after b.round := by
  induction rounds generalizing asleep with
  | nil => exact .nil
  | cons round rounds ih =>
    by_cases hgoes : round.GoesOn target
    · rw [watch_of_goesOn hgoes]
      refine List.isChain_cons.2 ⟨fun b hb => ?_, ih _⟩
      refine ⟨by rwa [round_turn], ?_⟩
      cases rounds with
      | nil => cases hb
      | cons next rounds =>
        obtain ⟨later, hlater⟩ := exists_watch_eq_cons
          (turn target interval epoch asleep round).after next rounds
        rw [hlater] at hb
        cases hb
        rw [round_turn]
    · rw [watch_of_ends hgoes]
      exact .singleton _

/-- As long as the monitor goes on, it has a turn in every round. -/
theorem rounds_watch_of_goesOn {rounds : List (Round σ)} (h : ∀ r ∈ rounds, r.GoesOn target)
    (asleep : σ) : (watch target interval epoch asleep rounds).map Turn.round = rounds := by
  induction rounds generalizing asleep with
  | nil => rfl
  | cons round rounds ih =>
    obtain ⟨hgoes, hrest⟩ := List.forall_mem_cons.1 h
    rw [watch_of_goesOn hgoes, List.map_cons, round_turn, ih hrest]

/-- The first round in which the monitor does not go on is the one of its last turn, and nothing is
asked for in it. -/
theorem exists_watch_eq_of_ends {before after : List (Round σ)} {r : Round σ}
    (h : ∀ q ∈ before, q.GoesOn target) (hr : ¬ r.GoesOn target) (asleep : σ) :
    ∃ earlier last, watch target interval epoch asleep (before ++ r :: after) = earlier ++ [last] ∧
      earlier.map Turn.round = before ∧ last.round = r ∧ last.call = none := by
  induction before generalizing asleep with
  | nil => exact ⟨[], _, watch_of_ends hr, rfl, round_turn _ _, call_turn_of_ends hr⟩
  | cons round before ih =>
    obtain ⟨hgoes, hrest⟩ := List.forall_mem_cons.1 h
    obtain ⟨earlier, last, heq, hearlier, hlast, hcall⟩ :=
      ih hrest (turn target interval epoch asleep round).after
    refine ⟨turn target interval epoch asleep round :: earlier, last, ?_, ?_, hlast, hcall⟩
    · rw [List.cons_append, watch_of_goesOn hgoes, heq]
      rfl
    · rw [List.map_cons, round_turn, hearlier]

/-- If the monitor does not go on in all rounds, there is a first one in which it does not. -/
theorem exists_first_of_not_forall {rounds : List (Round σ)}
    (h : ¬ ∀ q ∈ rounds, q.GoesOn target) :
    ∃ before r after, rounds = before ++ r :: after ∧ (∀ q ∈ before, q.GoesOn target) ∧
      ¬ r.GoesOn target := by
  cases hfind : rounds.find? fun r => !decide (r.GoesOn target) with
  | none => exact absurd (by simpa using hfind) h
  | some r =>
    obtain ⟨hr, before, after, heq, hbefore⟩ := List.find?_eq_some_iff_append.1 hfind
    exact ⟨before, r, after, heq, by simpa using hbefore, by simpa using hr⟩

/-- A turn in which the monitor asks is the last one only where there are no more rounds. -/
theorem rounds_watch_of_call {asleep : σ} {rounds : List (Round σ)} {earlier : List (Turn σ)}
    {last : Turn σ} (heq : watch target interval epoch asleep rounds = earlier ++ [last])
    (hcall : last.call ≠ none) :
    (watch target interval epoch asleep rounds).map Turn.round = rounds := by
  by_cases hall : ∀ q ∈ rounds, q.GoesOn target
  · exact rounds_watch_of_goesOn hall asleep
  · obtain ⟨before, r, after, rfl, hbefore, hr⟩ := exists_first_of_not_forall hall
    obtain ⟨_, final, hwatch, -, -, hnone⟩ := exists_watch_eq_of_ends hbefore hr asleep
    obtain ⟨-, hfinal⟩ := List.append_inj' (hwatch.symm.trans heq) rfl
    cases hfinal
    exact absurd hnone hcall

/-! ## What a monitor keeps to -/

/-- The times of a turn are those of a clock, by which the monitor was asleep. -/
structure Turn.Timely (target : Target σ) (interval : Duration) (t : Turn σ) : Prop where
  /-- Woken by the clock it has slept for its interval. -/
  slept : t.round.wake = .clock →
    interval ≤ target.now t.round.awake - target.now t.asleep
  /-- There is no activity yet to come. -/
  dated : target.lastActivity t.round.awake ≤ target.now t.round.awake
  /-- The clock does not run backwards during the turn. -/
  onward : target.now t.round.awake ≤ target.now t.after

/-- What a monitor of an epoch keeps to, whatever befalls it. -/
structure Watchful (target : Target σ) (interval : Duration) (epoch : Nat)
    (rounds : List (Round σ)) (turns : List (Turn σ)) : Prop where
  /-- It asks for a sign of life exactly where the clock wakes it and the last activity is an
  interval old, and always for its own epoch. -/
  calls : ∀ t ∈ turns, ∀ e, (∃ alive, t.call = some (e, alive)) ↔
    e = epoch ∧ t.round.GoesOn target ∧ interval ≤ t.round.idle target
  /-- It sleeps again after a turn; if the clock wakes it and there was no activity since it was
  awake, or none while it slept, it asks. -/
  insists : turns.IsChain fun a b =>
    a.round.GoesOn target ∧ b.asleep = a.after ∧
    (a.Timely target interval → b.Timely target interval → b.round.GoesOn target →
      (target.lastActivity b.round.awake = target.lastActivity a.round.awake ∨
        target.lastActivity b.round.awake ≤ target.now a.after) →
      ∃ alive, b.call = some (epoch, alive))
  /-- No answer ends it. -/
  persists : ∀ earlier last, turns = earlier ++ [last] → last.call ≠ none →
    turns.map Turn.round = rounds
  /-- It ends in the first round in which it is told to, nobody holds it any longer or there is
  nothing left to watch, and asks no more in that round. -/
  ends : ∀ before r after, rounds = before ++ r :: after → (∀ q ∈ before, q.GoesOn target) →
    ¬ r.GoesOn target →
    ∃ earlier last, turns = earlier ++ [last] ∧ earlier.map Turn.round = before ∧
      last.round = r ∧ last.call = none
  /-- It ends in no other round. -/
  stays : (∀ q ∈ rounds, q.GoesOn target) → turns.map Turn.round = rounds

/-- After a sleep without activity the idle time is an interval at least. This is why a monitor
insists. -/
theorem Turn.Timely.interval_le_idle {t : Turn σ} (h : t.Timely target interval)
    (hgoes : t.round.GoesOn target)
    (hquiet : target.lastActivity t.round.awake ≤ target.now t.asleep) :
    interval ≤ t.round.idle target := by
  have hslept := h.slept hgoes.1
  unfold Round.idle
  rw [Duration.le_iff, Duration.nanos_sub] at hslept ⊢
  rw [Duration.le_iff] at hquiet
  omega

/-- Watching keeps to all that, whatever the target and the rounds are. -/
theorem watchful_watch (target : Target σ) (interval : Duration) (epoch : Nat) (asleep : σ)
    (rounds : List (Round σ)) :
    Watchful target interval epoch rounds (watch target interval epoch asleep rounds) where
  calls t ht e := by
    obtain ⟨asleep, round, rfl⟩ := exists_turn_of_mem_watch ht
    rw [round_turn]
    exact exists_call_turn_iff asleep round e
  insists := by
    refine (isChain_watch asleep rounds).imp fun a b ⟨hgoes, hb⟩ => ?_
    have hasleep : b.asleep = a.after := by rw [hb, asleep_turn]
    refine ⟨hgoes, hasleep, fun ha htimely hb' hquiet => ?_⟩
    have hbefore : target.lastActivity b.round.awake ≤ target.now b.asleep := by
      rw [hasleep]
      rcases hquiet with hsame | hle
      · rw [hsame]
        exact Duration.le_trans ha.dated ha.onward
      · exact hle
    rw [hb]
    exact (exists_call_turn_iff _ _ _).2 ⟨rfl, hb', htimely.interval_le_idle hb' hbefore⟩
  persists _ _ heq hcall := rounds_watch_of_call heq hcall
  ends _ _ _ heq hbefore hr := heq ▸ exists_watch_eq_of_ends hbefore hr asleep
  stays h := rounds_watch_of_goesOn h asleep

end Turns

end Heartbeat

/-! ## Monitors of a manager -/

namespace Channel

/-- A manager as a monitor sees it. -/
def watched : Heartbeat.Target Channel := ⟨fun _ => true, now, fun s => s.manager.lastActivity,
  heartbeat⟩

/-- The clock is never set back by the parts of operations, and so by no run. -/
theorem stable_now_le (start : Duration) : Stable fun s => start ≤ s.now := by
  have hkeeps {s t : Channel} (h : s.Idles t) (hs : start ≤ s.now) : start ≤ t.now :=
    Duration.le_trans hs h.world.now_le
  exact {
    tell := fun notice => hkeeps (idles_tell _ notice)
    count := fun f => hkeeps (idles_count _ f)
    change := fun hnext => hkeeps (idles_transition _ hnext)
    close := hkeeps (idles_closeLink _)
    sleep := fun span => hkeeps (idles_sleep _ span)
    wait := fun span => hkeeps (idles_wait _ span)
    settle := fun made => hkeeps (idles_settle _ made)
    stop := hkeeps (idles_stopHeartbeat _)
    farewell := hkeeps (idles_sendClose _)
    opening := by
      intro s _ hs
      have hdialed := hkeeps (s.idles_closeLink.trans s.closeLink.idles_dial) hs
      unfold openLink
      rcases hdial : s.closeLink.dial with ⟨e | link, u⟩ <;> rw [hdial] at hdialed
      · exact hdialed
      · have hadopted : start ≤ (u.adopt link).now := (u.adopt_eq link).2.1 ▸ hdialed
        dsimp only
        rw [establish_eq]
        exact hkeeps (u.adopt link).idles_ensureHeartbeat hadopted
    trip := by
      intro s frame hs
      rcases s.roundTrip_activity frame with ⟨e, t, heq, hidles⟩ | ⟨reply, u, heq, hidles⟩
      · rw [heq]
        exact hkeeps hidles hs
      · rw [heq]
        exact hkeeps (t := u) hidles hs }

/-- A turn of a monitor is timely whatever others ask of the manager before the monitor wakes up and
while it waits to ask, if the monitor was asleep for its interval. -/
theorem timely_turn (sc : Scenario) (before meanwhile : List Operation) {interval : Duration}
    (epoch : Nat) {asleep : Channel} {wake : Heartbeat.Wake}
    (hslept : wake = .clock → interval ≤ (sc.after before).now - asleep.now) :
    (Heartbeat.turn watched interval epoch asleep
      ⟨wake, sc.after before, sc.after (before ++ meanwhile)⟩).Timely watched interval := by
  have hawake : (sc.after before).Dated sc.now :=
    sc.stable_after (stable_dated sc.now) sc.dated_start before
  have hlinked := sc.linked_after (before ++ meanwhile)
  have hasking : (sc.after before).now ≤ (sc.after (before ++ meanwhile)).now := by
    have hrun : sc.after (before ++ meanwhile) = (sc.after before).run meanwhile :=
      List.foldl_append
    rw [hrun]
    exact (stable_now_le _).run (sc.linked_after before) meanwhile (Duration.le_refl _)
  constructor
  · rwa [Heartbeat.round_turn, Heartbeat.asleep_turn]
  · rw [Heartbeat.round_turn]
    exact hawake.activity_le
  · rw [Heartbeat.round_turn]
    rcases Heartbeat.turn_cases watched interval epoch asleep
      ⟨wake, sc.after before, sc.after (before ++ meanwhile)⟩ with
      ⟨-, heq⟩ | ⟨-, -, heq⟩ | ⟨-, -, heq⟩ <;> rw [heq]
    · exact Duration.le_refl _
    · exact Duration.le_refl _
    · exact (stable_now_le _).perform hlinked (.heartbeat epoch) hasking

end Channel

namespace Session

/-- The session after a turn of one of its monitors. -/
def conclude (number : Nat) (thread : Heartbeat.Thread) (t : Heartbeat.Turn Channel)
    (s : Session) : Session :=
  match t.action with
  | .finish => s.finish number thread.epoch
  | .rest => s.rest number thread
  | .probe idle =>
    let channel :=
      match t.call with
      | some (_, false) => t.after.tell (.heartbeatFailed thread.epoch idle)
      | _ => t.after
    { s with channel }.rest number thread

/-- What befalls a monitor that wakes up now. -/
def round (thread : Heartbeat.Thread) (s : Session) : Heartbeat.Round Channel :=
  ⟨if thread.stopped then .stop else .clock, s.channel, s.channel⟩

variable {s : Session} {number : Nat} {thread : Heartbeat.Thread}

/-- A monitor that asks in a session does so as in its turn, if the manager is then as the round
tells. -/
theorem probe_eq (asleep : Channel) (round : Heartbeat.Round Channel)
    (hgoes : round.GoesOn Channel.watched)
    (hidle : thread.interval ≤ round.idle Channel.watched) (hasking : round.asking = s.channel) :
    s.probe number thread (round.idle Channel.watched) =
      s.conclude number thread
        (Heartbeat.turn Channel.watched thread.interval thread.epoch asleep round) := by
  rcases Heartbeat.turn_cases Channel.watched thread.interval thread.epoch asleep round with
    ⟨hends, -⟩ | ⟨-, hshort, -⟩ | ⟨-, -, heq⟩
  · exact absurd hgoes hends
  · exact absurd hidle hshort
  · have hcall : Channel.watched.heartbeat thread.epoch round.asking =
        s.channel.heartbeat thread.epoch := by rw [hasking]; rfl
    rw [heq, hcall]
    unfold Session.probe conclude
    dsimp only
    generalize s.channel.heartbeat thread.epoch = answer
    obtain ⟨_ | _, channel⟩ := answer <;> rfl

/-- What a monitor of a session does when it is woken, by the action of its turn. Where monitors are
held, it does not ask yet. -/
theorem wake_of_thread (hthread : s.channel.world.threads[number]? = some thread)
    (asleep : Channel) :
    s.wake number =
      match (Heartbeat.turn Channel.watched thread.interval thread.epoch asleep
        (s.round thread)).action with
      | .finish => s.finish number thread.epoch
      | .rest => s.rest number thread
      | .probe idle =>
        if s.holding then s.mapWorld (·.setPhase number (.held idle))
        else s.probe number thread idle := by
  rw [Heartbeat.action_turn]
  unfold wake
  rw [hthread]
  rfl

/-- A monitor that is not held takes its turn at once. -/
theorem wake_eq (hthread : s.channel.world.threads[number]? = some thread)
    (hholding : s.holding = false) (asleep : Channel) :
    s.wake number =
      s.conclude number thread
        (Heartbeat.turn Channel.watched thread.interval thread.epoch asleep (s.round thread)) := by
  rw [wake_of_thread hthread asleep, hholding]
  rcases Heartbeat.turn_cases Channel.watched thread.interval thread.epoch asleep
    (s.round thread) with ⟨-, heq⟩ | ⟨-, -, heq⟩ | ⟨hgoes, hidle, heq⟩
  · rw [heq]
    rfl
  · rw [heq]
    rfl
  · rw [← probe_eq asleep _ hgoes hidle rfl, heq]
    rfl

/-- A monitor that is held has looked already, and goes on to ask when it is let go. So its turn is
made in two parts. -/
theorem releaseThread_eq (hthread : s.channel.world.threads[number]? = some thread)
    (asleep : Channel) {awake : Channel} (hphase : thread.phase = .held awake.idle)
    (hidle : thread.interval ≤ awake.idle) :
    s.releaseThread number =
      s.conclude number thread (Heartbeat.turn Channel.watched thread.interval thread.epoch asleep
        ⟨.clock, awake, s.channel⟩) := by
  unfold releaseThread
  rw [hthread]
  dsimp only
  rw [hphase]
  exact probe_eq asleep ⟨.clock, awake, s.channel⟩ ⟨rfl, rfl⟩ hidle rfl

end Session

namespace Heartbeat

/-- A monitor asks for a sign of life, always for its own epoch, exactly where the clock wakes it
and the last activity is an interval old; so of two wake-ups by the clock in a row the second one
makes it ask unless there was activity in between. It does not end for want of a sign of life, but
in the first turn in which it is told to, nobody holds it any longer or there is nothing left to
watch, without asking again. All this holds of whatever is watched and whatever others do with it
meanwhile. A manager is watched in just this way: its clock and its activity are as they should be
at any time, and each wake-up of a monitor of a session is such a turn, which may be held up between
the look and the question. -/
theorem watch_asks_when_idle :
    (∀ {σ : Type} (target : Target σ) (interval : Duration) (epoch : Nat) (asleep : σ)
      (rounds : List (Round σ)),
      Watchful target interval epoch rounds (watch target interval epoch asleep rounds)) ∧
    (∀ (sc : Scenario) (before meanwhile : List Channel.Operation) (interval : Duration)
      (epoch : Nat) (asleep : Channel) (wake : Wake),
      (wake = .clock → interval ≤ (sc.after before).now - asleep.now) →
      (turn Channel.watched interval epoch asleep
        ⟨wake, sc.after before, sc.after (before ++ meanwhile)⟩).Timely
          Channel.watched interval) ∧
    ∀ (s : Session) (number : Nat) (thread : Thread) (asleep : Channel),
      s.channel.world.threads[number]? = some thread →
      let own := turn Channel.watched thread.interval thread.epoch asleep
      (s.holding = false → s.wake number = s.conclude number thread (own (s.round thread))) ∧
      (s.holding = true → ∀ idle, (own (s.round thread)).action = .probe idle →
        s.wake number = s.mapWorld fun w => w.setPhase number (.held idle)) ∧
      ∀ awake : Channel, thread.phase = .held awake.idle → thread.interval ≤ awake.idle →
        s.releaseThread number = s.conclude number thread (own ⟨.clock, awake, s.channel⟩) := by
  refine ⟨watchful_watch, fun sc before meanwhile interval epoch asleep wake hslept => ?_,
    fun s number thread asleep hthread => ⟨fun hholding => ?_, fun hholding idle hprobe => ?_,
      fun awake hphase hidle => ?_⟩⟩
  · exact Channel.timely_turn sc before meanwhile epoch hslept
  · exact Session.wake_eq hthread hholding asleep
  · rw [Session.wake_of_thread hthread asleep, hprobe, hholding]
    rfl
  · exact Session.releaseThread_eq hthread asleep hphase hidle

/-- The case of a monitor whose questions are never answered and that is told to end. Woken twice by
the clock it asks twice, and its third turn is the last one; the turns of a manager are timely, and
one of a session is its own. -/
theorem watch_asks_when_idle_unanswered :
    let interval := Duration.ofSeconds 5
    let target : Target Duration := ⟨fun _ => true, id, fun _ => .zero, fun _ now => (false, now)⟩
    let round (wake : Wake) (seconds : Nat) : Round Duration :=
      ⟨wake, .ofSeconds seconds, .ofSeconds seconds⟩
    let scenario : Scenario := { config := {} }
    let thread : Thread := ⟨0, interval, .asleep (.ofSeconds 5), false⟩
    let session : Session :=
      ⟨{ scenario.start with world := { now := .ofSeconds 6, threads := [thread] } }, false⟩
    let rounds := [round .clock 5, round .clock 10, round .stop 12, round .clock 17]
    let turns := watch target interval 7 .zero rounds
    (∃ a b c, turns = [a, b, c] ∧ a.call = some (7, false) ∧ ∃ alive, b.call = some (7, alive)) ∧
    (∃ earlier last, turns = earlier ++ [last] ∧
      earlier.map Turn.round = [round .clock 5, round .clock 10] ∧
      last.round = round .stop 12 ∧ last.call = none) ∧
    (turn Channel.watched interval 0 scenario.start
      ⟨.stop, scenario.start, scenario.start⟩).Timely Channel.watched interval ∧
    session.wake 0 = session.conclude 0 thread
      (turn Channel.watched interval 0 scenario.start (session.round thread)) := by
  intro interval target round scenario thread session rounds turns
  obtain ⟨hwatch, htimely, hsession⟩ := watch_asks_when_idle
  have hwatchful : Watchful target interval 7 rounds turns := hwatch target interval 7 .zero rounds
  refine ⟨⟨_, _, _, rfl, rfl, ?_⟩, ?_, htimely scenario [] [] interval 0 _ .stop nofun,
    (hsession session 0 thread _ rfl).1 rfl⟩
  · obtain ⟨⟨-, -, hinsists⟩, -⟩ := List.isChain_cons_cons.1 hwatchful.insists
    exact hinsists ⟨fun _ => by decide, by decide, by decide⟩
      ⟨fun _ => by decide, by decide, by decide⟩ (by decide) (.inl rfl)
  · exact hwatchful.ends [round .clock 5, round .clock 10] (round .stop 12) _ rfl (by decide)
      (by decide)

end Heartbeat

end CommandChannel
