import CommandChannel.Proofs.Correlation
import CommandChannel.Proofs.Framing
import CommandChannel.Session.Run
import Mathlib.Tactic.DefEqTransformations

/-!
# Sessions are made of steps

In a session the monitors run by themselves while time passes. What they do is made of the same
steps, so that what all steps keep holds throughout every session too.
-/

namespace CommandChannel

open Relation Channel

/-- However long a manager sleeps, nothing happens to any connection, by induction on the steps. -/
theorem sameTraffic_repeat_sleep (span : Duration) (steps : Nat) (w : World) :
    w.SameTraffic (Nat.repeat (World.sleep span) steps w) := by
  induction steps with
  | zero => exact .refl w
  | succ steps ih => exact ih.trans (World.sameTraffic_sleep _ span)

namespace Session

/-- The manager of a session goes on by steps, if it has a connection while it is connected. -/
def Leads (P : List UInt8 → Prop) (s t : Session) : Prop :=
  s.channel.Linked → Reaches P s.channel t.channel

/-- Whoever waits for the end of a monitor may wake it, and sleeps for a while. Watchers are told if
the monitor did not end. -/
theorem join_cases (handle : Heartbeat.Handle) (s : Session) :
    ∃ (ended : Bool) (steps : Nat) (woken slept : Session),
      (woken = s ∨ woken = s.wake handle.thread) ∧
        slept = woken.mapWorld (Nat.repeat (World.sleep Heartbeat.pollStep) steps) ∧
        s.join handle = if ended then slept
          else slept.mapWorld (·.tell (.heartbeatDetached handle.epoch Heartbeat.joinLimit)) := by
  -- The wait is up to the clock. It is any function here, or the kernel would try to run it.
  generalize hjoin : Session.join = join
  unfold Session.join at hjoin
  generalize Heartbeat.await = await at hjoin
  subst hjoin
  beta_reduce
  extract_lets woken finish
  have hwoken : woken = s ∨ woken = s.wake handle.thread := by
    unfold woken
    split
    · exact .inr rfl
    · exact .inl rfl
  obtain ⟨ended, steps, later⟩ := await finish Heartbeat.joinLimit woken.channel.now
  exact ⟨ended, steps, woken, _, hwoken, rfl, rfl⟩

/-- Nothing was done between two sessions that concerns the manager or any connection. -/
structure Spares (s t : Session) : Prop where
  manager_eq : t.channel.manager = s.channel.manager
  traffic : s.channel.world.SameTraffic t.channel.world

section Spares

variable {s t u : Session}

/-- Between a session and itself nothing was done, to the manager or to any connection. -/
theorem Spares.refl (s : Session) : s.Spares s := ⟨rfl, .refl _⟩

/-- A session that was spared twice in a row was spared in all. -/
theorem Spares.trans (hst : s.Spares t) (htu : t.Spares u) : s.Spares u :=
  ⟨htu.manager_eq.trans hst.manager_eq, hst.traffic.trans htu.traffic⟩

/-- The world may change without anything happening to a connection, and the manager is not
asked. -/
theorem spares_mapWorld (s : Session) {f : World → World} (hf : ∀ w : World, w.SameTraffic (f w)) :
    s.Spares (s.mapWorld f) := ⟨rfl, hf _⟩

/-- A monitor that ends concerns neither the manager nor any connection. -/
theorem spares_finish (s : Session) (number epoch : Nat) : s.Spares (s.finish number epoch) :=
  s.spares_mapWorld fun w =>
    have hphase : w.SameTraffic (w.setPhase number .finished) := .of_history_eq rfl rfl
    hphase.trans (World.sameTraffic_tell _ _)

/-- A monitor that goes on sleeping concerns neither the manager nor any connection. -/
theorem spares_rest (s : Session) (number : Nat) (thread : Heartbeat.Thread) :
    s.Spares (s.rest number thread) := by
  unfold rest
  split
  · exact s.spares_finish _ _
  · exact s.spares_mapWorld fun _ => .of_history_eq rfl rfl

/-- Whoever waits for the end of a monitor may wake it, and does nothing else. -/
theorem exists_spares_join (handle : Heartbeat.Handle) (s : Session) :
    ∃ woken, (woken = s ∨ woken = s.wake handle.thread) ∧ woken.Spares (s.join handle) := by
  obtain ⟨ended, steps, woken, slept, hwoken, hslept, heq⟩ := s.join_cases handle
  have hsleeps : woken.Spares slept := by
    rw [hslept]
    exact woken.spares_mapWorld (sameTraffic_repeat_sleep _ _)
  refine ⟨woken, hwoken, ?_⟩
  rw [heq]
  cases ended with
  | true => exact hsleeps
  | false => exact hsleeps.trans (slept.spares_mapWorld fun w => w.sameTraffic_tell _)

end Spares

section Leads

variable {P : List UInt8 → Prop} {s t u : Session}

/-- A session that stays as it is makes no step, and leads to itself. -/
theorem Leads.refl (s : Session) : s.Leads P s := fun _ => .refl

/-- A session may lead to another by way of a third one. -/
theorem Leads.trans (hst : s.Leads P t) (htu : t.Leads P u) : s.Leads P u := by
  intro hs
  exact (hst hs).trans (htu ((hst hs).linked hs))

/-- A manager that is spared goes on by a quiet step. -/
theorem Spares.leads (h : s.Spares t) : s.Leads P t :=
  fun _ => .single (.quiet ⟨_, h.manager_eq⟩ h.traffic)

/-- Nothing happens to any connection when only the world changes in a way that spares them. -/
theorem leads_mapWorld (s : Session) {f : World → World} (hf : ∀ w : World, w.SameTraffic (f w)) :
    s.Leads P (s.mapWorld f) := (s.spares_mapWorld hf).leads

section Ping

variable (hping : ∀ frame, Frame.encode (.command .ping) = .ok frame → P frame)
include hping

/-- A monitor that asks for a sign of life makes steps that offer the frame of that command. If it
is of an earlier epoch, watchers are told instead. -/
theorem leads_probe (s : Session) (number : Nat) (thread : Heartbeat.Thread) (idle : Duration) :
    s.Leads P (s.probe number thread idle) := by
  intro hs
  have hprobed : Reaches P s.channel (s.channel.heartbeat thread.epoch).2 :=
    .heartbeat hs thread.epoch hping
  unfold probe
  rcases hanswer : s.channel.heartbeat thread.epoch with ⟨alive, channel⟩
  rw [hanswer] at hprobed
  have hrested {u : Channel} (hu : Reaches P s.channel u) :
      Reaches P s.channel (({ s with channel := u } : Session).rest number thread).channel :=
    hu.trans ((spares_rest { s with channel := u } number thread).leads (hu.linked hs))
  cases alive with
  | true => exact hrested hprobed
  | false => exact hrested (hprobed.tail (.tell channel (.heartbeatFailed thread.epoch idle)))

/-- A monitor that is woken ends, goes on sleeping, is held or asks for a sign of life. -/
theorem leads_wake (s : Session) (number : Nat) : s.Leads P (s.wake number) := by
  unfold wake
  cases s.channel.world.threads[number]? with
  | none => exact .refl s
  | some thread =>
    dsimp only
    cases Heartbeat.action thread.interval (if thread.stopped then .stop else .clock)
        (some s.channel.idle) with
    | finish => exact (s.spares_finish _ _).leads
    | rest => exact (s.spares_rest _ _).leads
    | probe idle =>
      dsimp only
      split
      · exact s.leads_mapWorld fun _ => .of_history_eq rfl rfl
      · exact leads_probe hping s number thread idle

/-- The monitors that are due are woken one after the other. The induction is on the number of
wake-ups that are allowed. -/
theorem leads_runDue (target : Duration) (fuel : Nat) (s : Session) :
    s.Leads P (s.runDue target fuel) := by
  induction fuel generalizing s with
  | zero => exact .refl s
  | succ fuel ih =>
    unfold runDue
    split
    · exact .refl s
    · rename_i number deadline _
      split
      · have hwaited : s.Leads P (s.mapWorld fun w => { w with now := max w.now deadline }) :=
          s.leads_mapWorld fun _ => .of_history_eq rfl rfl
        exact (hwaited.trans (leads_wake hping _ number)).trans (ih _)
      · exact .refl s

/-- While time passes, monitors are woken when they are due, and nothing else happens. -/
theorem leads_advance (s : Session) (span : Duration) : s.Leads P (s.advance span) :=
  (leads_runDue hping _ _ s).trans (leads_mapWorld _ fun _ => .of_history_eq rfl rfl)

/-- A monitor that was held goes on to ask for its sign of life, unless it was told to end
meanwhile. -/
theorem leads_releaseThread (s : Session) (number : Nat) :
    s.Leads P (s.releaseThread number) := by
  unfold releaseThread
  split
  · split
    · exact leads_probe hping s _ _ _
    · exact .refl s
  · exact .refl s

/-- The monitors that were held go on one after the other, by induction on these. -/
theorem leads_foldl_releaseThread (numbers : List Nat) (s : Session) :
    s.Leads P (numbers.foldl releaseThread s) := by
  induction numbers generalizing s with
  | nil => exact .refl s
  | cons number numbers ih => exact (leads_releaseThread hping s number).trans (ih _)

/-- When monitors are let go, they make no other steps than when they are woken. -/
theorem leads_release (s : Session) : s.Leads P s.release :=
  leads_foldl_releaseThread hping _ { s with holding := false }

/-- Waiting for a monitor to end is a quiet time, apart from what the monitor does. -/
theorem leads_join (handle : Heartbeat.Handle) (s : Session) : s.Leads P (s.join handle) := by
  obtain ⟨woken, hwoken, hspares⟩ := s.exists_spares_join handle
  have hwakes : s.Leads P woken := by
    rcases hwoken with heq | heq
    · rw [heq]
      exact .refl s
    · rw [heq]
      exact leads_wake hping s _
  exact hwakes.trans hspares.leads

/-- Ending the connection makes the step that offers the closing frame, and waits for the
monitor. -/
theorem leads_disconnect (hclose : ∀ frame, Frame.encode (.command .close) = .ok frame → P frame)
    (s : Session) : s.Leads P s.disconnect := by
  have hstep : s.channel.Step P s.channel.disconnect.2 :=
    .disconnects hclose s.channel.disconnects_disconnect
  unfold disconnect
  rcases hended : s.channel.disconnect with ⟨handle, channel⟩
  rw [hended] at hstep
  have hleads : s.Leads P { s with channel } := fun _ => .single hstep
  cases handle with
  | none => exact hleads
  | some handle => exact hleads.trans (leads_join hping handle _)

end Ping

end Leads

/-- The commands that a step of a session may send, apart from the signs of life that monitors ask
for. -/
def Step.commands : Step → List Command
  | .execute command => [command]
  | .disconnect | .drop => [.close]
  | .probe => [.ping]
  | .look | .connect | .describe | .endpoint | .advance _ | .hold _ | .release => []

/-- A frame of a sign of life or of one of the commands that some steps may send. -/
def IsFrameOf (steps : List Step) (frame : List UInt8) : Prop :=
  ∃ command ∈ .ping :: steps.flatMap Step.commands, Frame.encode (.command command) = .ok frame

/-- The frame of a command is never empty, in a session either. -/
theorem IsFrameOf.ne_nil {steps : List Step} {frame : List UInt8} (h : IsFrameOf steps frame) :
    frame ≠ [] := by
  obtain ⟨_, _, hencode⟩ := h
  exact Frame.ne_nil_of_encode hencode

section Run

variable {P : List UInt8 → Prop}

/-- A step of a session is made of steps of its manager, that offer frames of its commands and of
signs of life. -/
theorem leads_step (s : Session) (step : Step) (hP : ∀ frame, IsFrameOf [step] frame → P frame) :
    s.Leads P (s.step step).2 := by
  have hframe {command : Command} (hmem : command ∈ .ping :: step.commands) (frame : List UInt8)
      (hencode : Frame.encode (.command command) = .ok frame) : P frame :=
    hP frame ⟨command, by simpa using hmem, hencode⟩
  have hping := hframe List.mem_cons_self
  cases step with
  | look | describe | endpoint => exact .refl s
  | connect =>
    intro _
    have hstep : s.channel.Step P s.channel.connect.2 := .connect s.channel
    rcases hconnect : s.channel.connect with ⟨up, channel⟩
    simp only [Session.step, hconnect] at hstep ⊢
    exact .single hstep
  | disconnect | drop =>
    simp only [Session.step]
    exact leads_disconnect hping (hframe (by simp [Step.commands])) s
  | execute command =>
    intro hs
    have hreaches : Reaches P s.channel (s.channel.execute command).2 :=
      .execute hs command (hframe (by simp [Step.commands]))
    rcases hexecute : s.channel.execute command with ⟨outcome, channel⟩
    simp only [Session.step, hexecute] at hreaches ⊢
    exact hreaches
  | probe =>
    intro hs
    have hreaches : Reaches P s.channel s.channel.probe.2 := .probe hs hping
    rcases hprobe : s.channel.probe with ⟨alive, channel⟩
    simp only [Session.step, hprobe] at hreaches ⊢
    exact hreaches
  | advance span => exact leads_advance hping s span
  | hold span => exact leads_advance hping { s with holding := true } span
  | release => exact leads_release hping s

/-- Every manager that is seen of a session is reached from the one at its beginning. The induction
is on the steps of the session. -/
theorem reaches_of_mem_run {notices : Bool} {s : Session} {steps : List Step} {row : Row}
    {channel : Channel} (hs : s.channel.Linked)
    (hP : ∀ frame, IsFrameOf steps frame → P frame) (hrow : row ∈ s.run notices steps)
    (hchannel : row.channel = some channel) : Reaches P s.channel channel := by
  induction steps generalizing s with
  | nil => cases hrow
  | cons step steps ih =>
    have hfirst : Reaches P s.channel (s.step step).2.channel := by
      refine s.leads_step step ?_ hs
      rintro frame ⟨command, hmem, hencode⟩
      refine hP frame ⟨command, ?_, hencode⟩
      simp only [List.flatMap_cons, List.mem_cons, List.mem_append, List.flatMap_nil,
        List.append_nil] at hmem ⊢
      exact hmem.imp_right .inl
    have hlater (hmem : row ∈ (s.step step).2.run notices steps) : Reaches P s.channel channel := by
      refine hfirst.trans (ih (hfirst.linked hs) ?_ hmem)
      rintro frame ⟨command, hmem, hencode⟩
      refine hP frame ⟨command, ?_, hencode⟩
      simp only [List.flatMap_cons, List.mem_cons, List.mem_append] at hmem ⊢
      exact hmem.imp_right .inr
    unfold Session.run at hrow
    rcases hstep : s.step step with ⟨answer, t⟩
    rw [hstep] at hfirst hlater hrow
    dsimp only at hrow
    split at hrow
    · -- The manager was given up, and is not seen any more.
      rw [List.mem_singleton.1 hrow] at hchannel
      cases hchannel
    · rcases List.mem_cons.1 hrow with rfl | hmem
      · cases hchannel
        exact hfirst
      · exact hlater hmem

end Run

end Session

namespace Scenario

variable (sc : Scenario)

/-- Whenever a manager is seen in a session, it agrees with its state and its connections, every
connection took frames of the commands and of signs of life, and the count of owed replies is
right. The monitors of the session may have run meanwhile. -/
theorem sound_of_mem_run {notices : Bool} {steps : List Session.Step} {row : Session.Row}
    {channel : Channel} (hrow : row ∈ (Session.start sc.config sc.world).run notices steps)
    (hchannel : row.channel = some channel) :
    channel.Consistent ∧ channel.Framed (Session.IsFrameOf steps) ∧ channel.Correlated := by
  have hreaches : Reaches (Session.IsFrameOf steps) sc.start channel :=
    Session.reaches_of_mem_run sc.linked_start (fun _ h => h) hrow hchannel
  have hsent : Reaches (· ≠ []) sc.start channel :=
    Session.reaches_of_mem_run sc.linked_start (fun _ h => h.ne_nil) hrow hchannel
  exact ⟨hreaches.consistent sc.consistent_start,
    hreaches.framed sc.consistent_start (sc.framed_start _),
    hsent.correlated sc.consistent_start (correlated_of_none rfl)⟩

end Scenario

end CommandChannel
