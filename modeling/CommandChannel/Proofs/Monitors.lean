import CommandChannel.Proofs.Moves

/-!
# Monitors and epochs

Every request to end the connection begins a new epoch, and an epoch has one monitor at most: the
one that the manager holds. What a monitor of an earlier epoch asks for has no effect, however late
it comes.
-/

namespace CommandChannel

namespace Channel

/-- Between two channels time passed and watchers were told something, and nothing else happened. -/
structure Untouched (s t : Channel) : Prop where
  manager_eq : t.manager = s.manager
  world_eq : ∃ told : List Entry,
    t.world = { s.world with now := t.world.now, history := told ++ s.world.history } ∧
      ∀ entry ∈ told, ∃ notice, entry.event = .notice notice

/-- The operation is the request to end the connection. -/
def Operation.isDisconnect : Operation → Bool
  | .disconnect => true
  | _ => false

/-- A monitor of one of some epochs asks for a sign of life, or time passes. -/
def Operation.IsCallOf (epochs : List Nat) : Operation → Prop
  | .heartbeat epoch => epoch ∈ epochs
  | .wait _ => True
  | _ => False

/-- The epochs of the monitors increase up to the present one, and a monitor of the present epoch
is the one that the manager holds. -/
structure Fenced (s : Channel) : Prop where
  /-- No two monitors share an epoch, and a later one has a later epoch. -/
  increasing : s.world.epochs.Pairwise (· < ·)
  /-- No monitor is ahead of the manager. -/
  le_epoch : ∀ epoch ∈ s.world.epochs, epoch ≤ s.manager.epoch
  /-- A monitor of the present epoch is held, and only that one is. -/
  current : ∀ number, s.world.epochs[number]? = some s.manager.epoch ↔
    s.manager.heartbeat = some ⟨s.manager.epoch, number⟩
  /-- No monitor of an earlier epoch is held. -/
  handle : ∀ handle, s.manager.heartbeat = some handle → handle.epoch = s.manager.epoch

section Untouched

variable {s t u : Channel}

/-- Between a channel and itself nothing happened. A run of no calls leaves a channel untouched. -/
theorem Untouched.refl (s : Channel) : s.Untouched s := ⟨rfl, [], rfl, by simp⟩

/-- If nothing happened in either of two times, nothing happened in both. -/
theorem Untouched.trans (hst : s.Untouched t) (htu : t.Untouched u) : s.Untouched u where
  manager_eq := htu.manager_eq.trans hst.manager_eq
  world_eq := by
    obtain ⟨first, ht, hfirst⟩ := hst.world_eq
    obtain ⟨second, hu, hsecond⟩ := htu.world_eq
    refine ⟨second ++ first, ?_, ?_⟩
    · rw [hu, ht, List.append_assoc]
    · intro entry hmem
      exact (List.mem_append.1 hmem).elim (hsecond entry) (hfirst entry)

/-- A monitor of another epoch than the present one has no say: watchers are told of it, and it
takes no time. -/
theorem untouched_heartbeat {epoch : Nat} (h : epoch ≠ s.manager.epoch) :
    s.Untouched (s.heartbeat epoch).2 ∧ (s.heartbeat epoch).2.now = s.now := by
  unfold heartbeat
  rw [if_neg (Ne.symm h)]
  exact ⟨⟨rfl, [_], rfl, by simp⟩, rfl⟩

/-- Monitors of other epochs have no say, however often they ask. The induction is on their calls;
the epoch does not change between these. -/
theorem untouched_run {epochs : List Nat} {calls : List Operation}
    (hcalls : ∀ call ∈ calls, call.IsCallOf epochs) (h : s.manager.epoch ∉ epochs) :
    s.Untouched (s.run calls) := by
  induction calls generalizing s with
  | nil => exact .refl s
  | cons call calls ih =>
    have hcall := hcalls call List.mem_cons_self
    have hfirst : s.Untouched (s.perform call) := by
      cases call with
      | heartbeat epoch =>
        refine (untouched_heartbeat ?_).1
        rintro rfl
        exact h hcall
      | wait span => exact ⟨rfl, [], rfl, by simp⟩
      | connect | disconnect | execute | probe => exact hcall.elim
    refine hfirst.trans (ih (fun other hmem => hcalls other (List.mem_cons_of_mem _ hmem)) ?_)
    rwa [hfirst.manager_eq]

end Untouched

section Fenced

variable {s t : Channel}

/-- A move leaves the monitors as they are, or starts one of the present epoch where none is held,
or gives the monitor up and begins a new epoch. -/
theorem Move.monitors_cases {act : Act} (h : s.Move act t) :
    (t.manager.epoch = s.manager.epoch ∧ t.manager.heartbeat = s.manager.heartbeat ∧
        t.world.epochs = s.world.epochs) ∨
      (s.manager.heartbeat = none ∧ t.manager.epoch = s.manager.epoch ∧
        t.manager.heartbeat = some ⟨s.manager.epoch, s.world.epochs.length⟩ ∧
        t.world.epochs = s.world.epochs ++ [s.manager.epoch]) ∨
      (act = .stop ∧ t.manager.epoch = s.manager.epoch + 1 ∧ t.manager.heartbeat = none ∧
        t.world.epochs = s.world.epochs) := by
  cases h with
  | tell _ | count _ | fault | touch | answer | sleep _ | take _ _ | settle _ _ | owe _ _
  | wait _ =>
    exact .inl ⟨rfl, rfl, rfl⟩
  | @change next _ =>
    left
    rw [manager_transition]
    refine ⟨rfl, rfl, ?_⟩
    unfold transition
    simp only
    split <;> rfl
  | close =>
    left
    rw [manager_closeLink]
    refine ⟨rfl, rfl, ?_⟩
    unfold closeLink
    split <;> rfl
  | dial _ =>
    left
    rw [manager_dial]
    exact ⟨rfl, rfl, s.dial_world.2⟩
  | monitor _ =>
    obtain ⟨_, _, hmanager, -⟩ := s.manager_ensureHeartbeat
    have hepoch : s.ensureHeartbeat.manager.epoch = s.manager.epoch := by rw [hmanager]
    rcases s.ensureHeartbeat_world.2 with ⟨hsame, hepochs⟩ | ⟨hnone, hstarted, hepochs⟩
    · exact .inl ⟨hepoch, hsame, hepochs⟩
    · exact .inr (.inl ⟨hnone, hepoch, hstarted, hepochs⟩)
  | send frame hstate =>
    obtain ⟨_, _, _, hmanager⟩ := s.manager_sendFrame frame
    left
    rw [hmanager]
    exact ⟨rfl, rfl, (s.sendFrame_world frame hstate).2⟩
  | read _ =>
    obtain ⟨_, _, hmanager⟩ := s.manager_readReply
    left
    rw [hmanager]
    exact ⟨rfl, rfl, s.readReply_world.2⟩
  | stop =>
    right
    right
    rw [s.stopHeartbeat_eq.1]
    exact ⟨rfl, rfl, rfl, s.stopHeartbeat_world.2⟩
  | farewell =>
    obtain ⟨_, hmanager⟩ := s.manager_sendClose
    left
    rw [hmanager]
    exact ⟨rfl, rfl, s.sendClose_world.2⟩

/-- A monitor that is started where none is held is the only one of its epoch, and the latest
one. -/
theorem Fenced.start (hs : s.Fenced) (hnone : s.manager.heartbeat = none)
    (hepoch : t.manager.epoch = s.manager.epoch)
    (hheartbeat : t.manager.heartbeat = some ⟨s.manager.epoch, s.world.epochs.length⟩)
    (hepochs : t.world.epochs = s.world.epochs ++ [s.manager.epoch]) : t.Fenced := by
  have hfree (number : Nat) : s.world.epochs[number]? ≠ some s.manager.epoch := by
    intro hnumber
    rw [(hs.current number).1 hnumber] at hnone
    cases hnone
  refine ⟨?_, ?_, ?_, ?_⟩
  · rw [hepochs, List.pairwise_append]
    refine ⟨hs.increasing, List.pairwise_singleton _ _, ?_⟩
    intro epoch hmem other hother
    rw [List.mem_singleton.1 hother]
    obtain ⟨number, hnumber⟩ := List.mem_iff_getElem?.1 hmem
    refine Nat.lt_of_le_of_ne (hs.le_epoch epoch hmem) ?_
    rintro rfl
    exact hfree number hnumber
  · rw [hepochs, hepoch]
    intro epoch hmem
    rcases List.mem_append.1 hmem with hmem | hmem
    · exact hs.le_epoch epoch hmem
    · exact Nat.le_of_eq (List.mem_singleton.1 hmem)
  · intro number
    rw [hepochs, hepoch, hheartbeat]
    constructor
    · intro hnumber
      by_cases hlt : number < s.world.epochs.length
      · rw [List.getElem?_append_left hlt] at hnumber
        exact absurd hnumber (hfree number)
      · obtain ⟨hlength, -⟩ := List.getElem?_eq_some_iff.1 hnumber
        rw [List.length_append, List.length_singleton] at hlength
        rw [show number = s.world.epochs.length by omega]
    · intro hhandle
      cases hhandle
      exact List.getElem?_concat_length
  · rw [hheartbeat, hepoch]
    rintro _ ⟨⟩
    rfl

/-- No monitor is of an epoch that has just begun, so that none is held and all are of earlier
ones. -/
theorem Fenced.advance (hs : s.Fenced) (hepoch : t.manager.epoch = s.manager.epoch + 1)
    (hheartbeat : t.manager.heartbeat = none) (hepochs : t.world.epochs = s.world.epochs) :
    t.Fenced := by
  refine ⟨hepochs ▸ hs.increasing, ?_, ?_, ?_⟩
  · rw [hepochs, hepoch]
    intro epoch hmem
    exact Nat.le_succ_of_le (hs.le_epoch epoch hmem)
  · rw [hepochs, hepoch, hheartbeat]
    intro number
    refine ⟨fun hnumber => ?_, fun hhandle => by cases hhandle⟩
    exact absurd (hs.le_epoch _ (List.mem_of_getElem? hnumber)) (Nat.not_succ_le_self _)
  · rw [hheartbeat]
    rintro _ ⟨⟩

/-- Every move keeps monitors of earlier epochs apart from the one that is held. -/
theorem Move.fenced {act : Act} (h : s.Move act t) (hs : s.Fenced) : t.Fenced := by
  rcases h.monitors_cases with ⟨hepoch, hheartbeat, hepochs⟩ |
    ⟨hnone, hepoch, hheartbeat, hepochs⟩ | ⟨-, hepoch, hheartbeat, hepochs⟩
  · refine ⟨hepochs ▸ hs.increasing, ?_, ?_, ?_⟩
    · rw [hepochs, hepoch]
      exact hs.le_epoch
    · rw [hepochs, hepoch, hheartbeat]
      exact hs.current
    · rw [hepoch, hheartbeat]
      exact hs.handle
  · exact hs.start hnone hepoch hheartbeat hepochs
  · exact hs.advance hepoch hheartbeat hepochs

/-- A monitor that was started is not forgotten, whatever moves are made. -/
theorem Moves.epochs_grow {P : Act → Prop} (h : s.Moves P t) :
    s.world.epochs <+: t.world.epochs := by
  refine h.keeps (I := fun u => s.world.epochs <+: u.world.epochs) ?_ List.prefix_rfl
  intro u v act _ hmove hu
  rcases hmove.monitors_cases with ⟨-, -, hepochs⟩ | ⟨-, -, -, hepochs⟩ | ⟨-, -, -, hepochs⟩
  · rwa [hepochs]
  · rw [hepochs]
    exact hu.trans (List.prefix_append _ _)
  · rwa [hepochs]

/-- The epoch stays the same as long as the monitor is not stopped. -/
theorem Moves.epoch_eq (h : s.Moves (· ≠ .stop) t) : t.manager.epoch = s.manager.epoch := by
  refine h.keeps (I := fun u => u.manager.epoch = s.manager.epoch) ?_ rfl
  intro u v act hact hmove hu
  rcases hmove.monitors_cases with ⟨hepoch, -⟩ | ⟨-, hepoch, -⟩ | ⟨hstop, -⟩
  · exact hepoch.trans hu
  · exact hepoch.trans hu
  · exact absurd hstop hact

/-- Only the request to end the connection begins a new epoch. -/
theorem epoch_perform (hs : s.Linked) (hconsistent : s.Consistent) (operation : Operation) :
    (s.perform operation).manager.epoch =
      s.manager.epoch + if operation.isDisconnect then 1 else 0 := by
  have hsame (hother : operation ≠ .disconnect) :
      (s.perform operation).manager.epoch = s.manager.epoch :=
    (Moves.perform (fun _ hact => hact) hs hconsistent fun h => absurd h hother).epoch_eq
  cases operation with
  | disconnect =>
    obtain ⟨_, hmanager⟩ := s.disconnects_disconnect.manager_eq
    change s.disconnect.2.manager.epoch = _
    rw [hmanager]
    rfl
  | connect | execute | probe | heartbeat | wait => exact hsame (by simp)

end Fenced

end Channel

namespace Scenario

open Channel

variable (sc : Scenario)

/-- Between operations the monitors are fenced, as no move lets them mix. -/
theorem fenced_after (operations : List Operation) : (sc.after operations).Fenced := by
  refine (sc.moves_after operations).keeps (fun _ hmove hu => hmove.fenced hu) ?_
  exact ⟨.nil, by simp [start, Channel.start, world, World.epochs],
    by simp [start, Channel.start, world, World.epochs], by simp [start, Channel.start]⟩

/-- The epoch is the number of requests to end the connection, whatever else was asked for. -/
theorem epoch_after (operations : List Operation) :
    (sc.after operations).manager.epoch = operations.countP Operation.isDisconnect := by
  induction operations using List.reverseRecOn with
  | nil => rfl
  | append_singleton before operation ih =>
    rw [after_append, List.countP_append, List.countP_singleton, ← ih]
    exact epoch_perform (sc.linked_after before) (sc.consistent_after before) operation

/-- A monitor that was started before the connection was ended is of an earlier epoch, whatever
happens after that. -/
theorem lt_epoch_after (before more : List Operation) {epoch : Nat}
    (hmem : epoch ∈ (sc.after before).world.epochs) :
    epoch < (sc.after (before ++ .disconnect :: more)).manager.epoch := by
  have hle := (sc.fenced_after before).le_epoch epoch hmem
  rw [epoch_after] at hle ⊢
  rw [List.countP_append, List.countP_cons_of_pos rfl]
  omega

/-- The epoch of a manager is the number of times that it was asked to end the connection. No two
monitors are of one epoch, none of them is forgotten, and a monitor of the present epoch is the one
whose handle the manager holds. What a monitor of another epoch asks for changes nothing. So nothing
that monitors ask for after the connection was ended has any effect, and a monitor from before that
has none ever after. -/
theorem fence_after (operations : List Operation) :
    let s := sc.after operations
    s.manager.epoch = operations.countP Operation.isDisconnect ∧
    s.world.epochs.Nodup ∧
    (∀ before more, operations = before ++ more →
      (sc.after before).world.epochs <+: s.world.epochs) ∧
    (∀ number, s.world.epochs[number]? = some s.manager.epoch ↔
      s.manager.heartbeat = some ⟨s.manager.epoch, number⟩) ∧
    (∀ handle, s.manager.heartbeat = some handle → handle.epoch = s.manager.epoch) ∧
    (∀ epoch, epoch ≠ s.manager.epoch →
      s.Untouched (s.heartbeat epoch).2 ∧ (s.heartbeat epoch).2.now = s.now) ∧
    (∀ before, operations = before ++ [.disconnect] → ∀ calls : List Operation,
      (∀ call ∈ calls, call.IsCallOf s.world.epochs) → s.Untouched (s.run calls)) ∧
    (∀ before more, operations = before ++ .disconnect :: more →
      ∀ epoch ∈ (sc.after before).world.epochs, s.Untouched (s.heartbeat epoch).2) := by
  intro s
  have hfenced : s.Fenced := sc.fenced_after operations
  refine ⟨sc.epoch_after operations, hfenced.increasing.imp Nat.ne_of_lt, ?_, hfenced.current,
    hfenced.handle, fun _ => untouched_heartbeat, ?_, ?_⟩
  · rintro before more rfl
    have hmoves := Moves.run (sc.linked_after before) (sc.consistent_after before) more
    rw [← after_append] at hmoves
    exact hmoves.epochs_grow
  · rintro before rfl calls hcalls
    refine untouched_run hcalls fun hmem => ?_
    -- A monitor of the epoch that has just begun would be held, but none is.
    obtain ⟨number, hnumber⟩ := List.mem_iff_getElem?.1 hmem
    have hheld := (hfenced.current number).1 hnumber
    obtain ⟨_, hmanager⟩ := (sc.after before).disconnects_disconnect.manager_eq
    have hended : s.manager = (sc.after before).disconnect.2.manager := by
      rw [show s = (sc.after before).run [.disconnect] from sc.after_append before _]
      rfl
    rw [hended, hmanager] at hheld
    cases hheld
  · rintro before more rfl epoch hmem
    exact (untouched_heartbeat (Nat.ne_of_lt (sc.lt_epoch_after before more hmem))).1

end Scenario

end CommandChannel
