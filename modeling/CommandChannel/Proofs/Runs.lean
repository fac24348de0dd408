import CommandChannel.Proofs.Courses

/-!
# Runs from the beginning

A scenario is what a manager cannot know beforehand: its configuration and a world in which nothing
has happened yet. Whatever a manager is asked to do in a scenario is made of steps, and the frames
it offers are those of the commands it was asked to send.
-/

namespace CommandChannel

open Relation

namespace Channel

/-- The commands that an operation may send. -/
def Operation.commands : Operation → List Command
  | .connect | .wait _ => []
  | .execute command => [command]
  | .probe | .heartbeat _ => [.ping]
  | .disconnect => [.close]

/-- A frame of one of the commands that some operations may send. -/
def IsFrameOf (operations : List Operation) (frame : List UInt8) : Prop :=
  ∃ operation ∈ operations, ∃ command ∈ operation.commands,
    Frame.encode (.command command) = .ok frame

/-- The frame of a command is never empty, as it has a header. -/
theorem IsFrameOf.ne_nil {operations : List Operation} {frame : List UInt8}
    (h : IsFrameOf operations frame) : frame ≠ [] := by
  obtain ⟨_, _, _, _, hencode⟩ := h
  exact Frame.ne_nil_of_encode hencode

section Reach

variable {P : List UInt8 → Prop} {s : Channel}

/-- A command is made of steps that offer its frame, and no steps at all if there is none. -/
theorem Reaches.execute (hs : s.Linked) (command : Command)
    (hP : ∀ frame, Frame.encode (.command command) = .ok frame → P frame) :
    Reaches P s (s.execute command).2 := by
  rcases execute_cases command hs with ⟨e, -, heq⟩ | ⟨frame, trips, hencode, hcourse⟩
  · rw [heq]
  · exact hcourse.reaches (hP frame hencode) (Frame.ne_nil_of_encode hencode)

/-- Asking for a sign of life is made of steps that offer the frame of that command. -/
theorem Reaches.probe (hs : s.Linked)
    (hP : ∀ frame, Frame.encode (.command .ping) = .ok frame → P frame) :
    Reaches P s s.probe.2 := Reaches.execute hs .ping hP

/-- A monitor may ask for a sign of life, or be of an earlier epoch. Then watchers are told, and
that is all. -/
theorem Reaches.heartbeat (hs : s.Linked) (epoch : Nat)
    (hP : ∀ frame, Frame.encode (.command .ping) = .ok frame → P frame) :
    Reaches P s (s.heartbeat epoch).2 := by
  unfold Channel.heartbeat
  split
  · exact .probe hs hP
  · exact .single (.tell s _)

/-- An operation is made of steps that offer the frames of its commands. There is one case for each
operation. -/
theorem Reaches.perform (hs : s.Linked) {operation : Operation}
    (hP : ∀ frame, IsFrameOf [operation] frame → P frame) :
    Reaches P s (s.perform operation) := by
  have hframe {command : Command} (hmem : command ∈ operation.commands) (frame : List UInt8)
      (hencode : Frame.encode (.command command) = .ok frame) : P frame :=
    hP frame ⟨operation, List.mem_singleton_self _, command, hmem, hencode⟩
  cases operation with
  | connect => exact .single (.connect s)
  | disconnect =>
    exact .single (.disconnects (hframe (List.mem_singleton_self _)) s.disconnects_disconnect)
  | execute command => exact .execute hs command (hframe (List.mem_singleton_self _))
  | probe => exact .probe hs (hframe (List.mem_singleton_self _))
  | heartbeat epoch => exact .heartbeat hs epoch (hframe (List.mem_singleton_self _))
  | wait span => exact .single (.quiet ⟨_, rfl⟩ (.of_history_eq rfl rfl))

/-- A run is made of steps that offer the frames of its commands, by induction on its operations. -/
theorem Reaches.run (hs : s.Linked) {operations : List Operation}
    (hP : ∀ frame, IsFrameOf operations frame → P frame) : Reaches P s (s.run operations) := by
  induction operations generalizing s with
  | nil => exact .refl
  | cons operation operations ih =>
    have hfirst : Reaches P s (s.perform operation) := by
      apply Reaches.perform hs
      rintro frame ⟨_, hmem, command, hcommand, hencode⟩
      refine hP frame ⟨operation, List.mem_cons_self, command, ?_, hencode⟩
      rwa [List.mem_singleton.1 hmem] at hcommand
    refine hfirst.trans (ih (hfirst.linked hs) ?_)
    rintro frame ⟨other, hmem, hcommand⟩
    exact hP frame ⟨other, List.mem_cons_of_mem _ hmem, hcommand⟩

end Reach

end Channel

/-- A configuration, and a world in which nothing has happened yet. -/
structure Scenario where
  config : Config
  /-- The moment at which the manager is made. -/
  now : Duration := .zero
  /-- What is known about the names of hosts after the lookups below. -/
  names : NameTable := []
  /-- What the first lookups find, one table each. -/
  lookups : List NameTable := []
  /-- What becomes of the attempts to connect. -/
  dials : List DialOutcome := []
  /-- Which threads of monitors do not start. -/
  spawns : List (Option IoError) := []

namespace Scenario

open Channel

variable (sc : Scenario)

/-- The world at the beginning. -/
def world : World where
  now := sc.now
  names := sc.names
  lookups := sc.lookups
  dials := sc.dials
  spawns := sc.spawns

/-- The manager at the beginning. -/
def start : Channel := .start sc.config sc.world

/-- The manager after some operations. -/
def after (operations : List Operation) : Channel := sc.start.run operations

/-- At the beginning nobody is connected, so that no connection need be held. -/
theorem linked_start : sc.start.Linked := by
  intro hstate
  cases hstate

/-- Whatever is reached from the beginning is reached by offering frames of the commands. So
invariants of steps hold after any operations. -/
theorem reaches_after (operations : List Operation) :
    Reaches (IsFrameOf operations) sc.start (sc.after operations) :=
  Reaches.run sc.linked_start fun _ h => h

/-- Between operations, whoever is connected has a connection. So commands find one to go over. -/
theorem linked_after (operations : List Operation) : (sc.after operations).Linked :=
  (sc.reaches_after operations).linked sc.linked_start

/-- Operations may be followed by others, as if both were one run. -/
theorem after_append (before more : List Operation) :
    sc.after (before ++ more) = (sc.after before).run more := List.foldl_append

end Scenario

end CommandChannel
