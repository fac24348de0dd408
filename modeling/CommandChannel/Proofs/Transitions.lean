import CommandChannel.Proofs.Moves
import Mathlib.Data.List.Chain

/-!
# Changes of the state

The history of a manager tells which states it went through. Every change begins in the state that
was reached before and goes over to one that may follow, so that the states make a path; and frames
are on their way only while the manager is connected. This holds at every moment, in the middle of
an operation too.
-/

namespace CommandChannel

namespace LinkState

/-- The state after a history that lists the latest event first. -/
def after : List Entry → LinkState
  | [] => .disconnected
  | entry :: earlier =>
    match entry.event with
    | .change _ next => next
    | _ => after earlier

/-- The states that a history went through, in the order of time. -/
def path : List Entry → List LinkState
  | [] => [.disconnected]
  | entry :: earlier =>
    match entry.event with
    | .change _ next => path earlier ++ [next]
    | _ => path earlier

/-- A state may be followed by another one, and a connection comes only from being made. -/
def Precedes (before next : LinkState) : Prop :=
  before.mayBecome next = true ∧
    (next = .connected → before = .connecting ∨ before = .reconnecting)

/-- A change that is allowed, to another state, is one between states that may follow each other. A
connection comes only from being made, since it does not count as a change to stay connected. -/
theorem precedes_of_mayBecome {before next : LinkState} (hne : before ≠ next)
    (hmay : before.mayBecome next = true) : before.Precedes next := by
  refine ⟨hmay, ?_⟩
  rintro rfl
  cases before with
  | connecting => exact .inl rfl
  | reconnecting => exact .inr rfl
  | connected => exact absurd rfl hne
  | disconnected => cases hmay
  | error => cases hmay

end LinkState

/-- The event may happen in a state: a change begins with that state and is allowed, and frames are
on their way only while the manager is connected. -/
def Event.IsLawful (state : LinkState) : Event → Prop
  | change before next => before = state ∧ before ≠ next ∧ before.mayBecome next = true
  | offered .. | write .. | sent .. => state = .connected
  | _ => True

/-- Every event of a history that lists the latest one first happened in a state in which it may
happen. -/
def Lawful : List Entry → Prop
  | [] => True
  | entry :: earlier => entry.event.IsLawful (.after earlier) ∧ Lawful earlier

section Histories

variable {entry : Entry} {later earlier : List Entry}

/-- What may happen without changing the state is lawful, as it need not be a change that is
allowed. -/
theorem Event.IsSteady.isLawful {state : LinkState} {event : Event} (h : event.IsSteady state) :
    event.IsLawful state := by
  cases event with
  | change | shutdown => exact h.elim
  | offered | write | sent => exact h
  | _ => trivial

/-- What may happen without changing the state leaves the state that was reached. -/
theorem Event.IsSteady.after_cons (h : entry.event.IsSteady (.after earlier)) :
    LinkState.after (entry :: earlier) = .after earlier := by
  obtain ⟨time, event⟩ := entry
  cases event with
  | change => exact h.elim
  | _ => rfl

/-- What leaves the state as it is keeps a history lawful, and the state that it leads to. -/
theorem Lawful.append (h : Lawful earlier)
    (hsteady : ∀ entry ∈ later, entry.event.IsSteady (.after earlier)) :
    Lawful (later ++ earlier) ∧ LinkState.after (later ++ earlier) = .after earlier := by
  induction later with
  | nil => exact ⟨h, rfl⟩
  | cons entry later ih =>
    obtain ⟨hlawful, hstate⟩ := ih fun other hmem => hsteady other (List.mem_cons_of_mem _ hmem)
    have hentry := hsteady entry List.mem_cons_self
    rw [← hstate] at hentry
    exact ⟨⟨hentry.isLawful, hlawful⟩, hentry.after_cons.trans hstate⟩

/-- Every event of a lawful history may happen in the state that was reached before it. -/
theorem Lawful.isLawful (h : Lawful (later ++ entry :: earlier)) :
    entry.event.IsLawful (.after earlier) := by
  induction later with
  | nil => exact h.1
  | cons _ _ ih => exact ih h.2

/-- The path of a history ends in the state that it leads to. -/
theorem LinkState.getLast?_path (history : List Entry) :
    (path history).getLast? = some (after history) := by
  induction history with
  | nil => rfl
  | cons entry earlier ih =>
    obtain ⟨time, event⟩ := entry
    cases event with
    | change before next => exact List.getLast?_concat
    | _ => exact ih

/-- The path of a history begins at rest, however long it is. -/
theorem LinkState.head?_path (history : List Entry) :
    (path history).head? = some .disconnected := by
  induction history with
  | nil => rfl
  | cons entry earlier ih =>
    obtain ⟨time, event⟩ := entry
    cases event with
    | change before next =>
      change (path earlier ++ [next]).head? = _
      rw [List.head?_append, ih]
      rfl
    | _ => exact ih

/-- The states that a lawful history went through are a path of the allowed changes, by induction on
the history. -/
theorem Lawful.isChain_path {history : List Entry} (h : Lawful history) :
    (LinkState.path history).IsChain LinkState.Precedes := by
  induction history with
  | nil => exact .singleton _
  | cons entry earlier ih =>
    obtain ⟨time, event⟩ := entry
    cases event with
    | change before next =>
      obtain ⟨⟨rfl, hne, hmay⟩, hearlier⟩ := h
      refine List.isChain_append.2 ⟨ih hearlier, .singleton _, ?_⟩
      rintro last hlast first hfirst
      rw [LinkState.getLast?_path] at hlast
      cases hlast
      cases hfirst
      exact LinkState.precedes_of_mayBecome hne hmay
    | _ => exact ih h.2

end Histories

namespace Channel

/-- The history of a channel is lawful, and the state that it led to is that of the manager and the
one that is published. -/
structure Tracked (s : Channel) : Prop where
  /-- Both states that a manager keeps are the same. -/
  published_eq : s.manager.published = s.manager.state
  /-- The last recorded change led to the present state. -/
  after_eq : LinkState.after s.world.history = s.manager.state
  /-- Every recorded change begins where the one before it ended, and is allowed. -/
  lawful : Lawful s.world.history

section Tracked

variable {s t : Channel}

/-- What leaves the state as it is keeps track of it. -/
theorem Tracked.adds (hs : s.Tracked) (hadds : s.Adds t)
    (hstate : t.manager.state = s.manager.state)
    (hpublished : t.manager.published = s.manager.published) : t.Tracked := by
  obtain ⟨later, hhistory, hsteady⟩ := hadds
  rw [← hs.after_eq] at hsteady
  obtain ⟨hlawful, hafter⟩ := hs.lawful.append hsteady
  rw [← hhistory] at hlawful hafter
  exact ⟨by rw [hpublished, hstate, hs.published_eq], by rw [hafter, hs.after_eq, hstate], hlawful⟩

/-- Giving the connection up keeps track of the state, which it does not change. -/
theorem Tracked.closeLink (hs : s.Tracked) : s.closeLink.Tracked := by
  unfold Channel.closeLink
  split
  · exact hs
  · exact ⟨hs.published_eq, hs.after_eq, trivial, trivial, hs.lawful⟩

/-- An allowed change of the state is kept track of, and is none if the state is the same. -/
theorem Tracked.transition (hs : s.Tracked) {next : LinkState}
    (hmay : s.manager.state.mayBecome next = true) : (s.transition next).Tracked := by
  unfold Channel.transition
  by_cases hsame : s.manager.state = next
  · simp only [if_pos hsame]
    exact ⟨rfl, hs.after_eq.trans hsame, hs.lawful⟩
  · simp only [if_neg hsame]
    exact ⟨rfl, rfl, ⟨hs.after_eq.symm, hsame, hmay⟩, hs.lawful⟩

/-- Every move keeps track of the state. Only changes and the end of a connection need an argument
of their own. -/
theorem Move.tracked {act : Act} (h : s.Move act t) (hs : s.Tracked) : t.Tracked := by
  by_cases hchange : act = .change
  · cases h with
    | change hmay => exact hs.transition hmay
    | _ => cases hchange
  · by_cases hclose : act = .close
    · cases h with
      | close => exact hs.closeLink
      | _ => cases hclose
    · obtain ⟨hstate, hpublished⟩ := h.state_eq hchange
      exact hs.adds (h.adds hchange hclose) hstate hpublished

/-- The state is kept track of at every moment, also within operations. -/
theorem Moves.tracked {P : Act → Prop} (h : s.Moves P t) (hs : s.Tracked) : t.Tracked := by
  refine h.keeps ?_ hs
  intro u v act _ hmove hu
  exact hmove.tracked hu

end Tracked

end Channel

namespace Scenario

open Channel

variable (sc : Scenario)

/-- Between operations the history leads to the state of the manager. -/
theorem tracked_after (operations : List Operation) : (sc.after operations).Tracked :=
  (sc.moves_after operations).tracked ⟨rfl, rfl, trivial⟩

/-- Every change of the state in a run begins with the state that was reached before, and goes over
to another one that may follow. The states make a path from rest to the state that the manager is
in, which is also the one that is published. On it a connection comes only from being made, and
frames are offered, taken and sent only while the manager is connected. -/
theorem transitions_after (operations : List Operation) :
    let s := sc.after operations
    (∀ later entry earlier, s.world.history = later ++ entry :: earlier →
      (∀ before next, entry.event = .change before next →
        before = LinkState.after earlier ∧ before ≠ next ∧ before.mayBecome next = true) ∧
      (entry.event.isTransfer = true → LinkState.after earlier = .connected)) ∧
    (LinkState.path s.world.history).IsChain (fun before next =>
      before.mayBecome next = true ∧
        (next = .connected → before = .connecting ∨ before = .reconnecting)) ∧
    (LinkState.path s.world.history).head? = some .disconnected ∧
    (LinkState.path s.world.history).getLast? = some s.manager.state ∧
    s.manager.published = s.manager.state := by
  intro s
  have htracked : s.Tracked := sc.tracked_after operations
  refine ⟨?_, htracked.lawful.isChain_path, LinkState.head?_path _, ?_, htracked.published_eq⟩
  · intro later entry earlier hhistory
    have hlawful := htracked.lawful
    rw [hhistory] at hlawful
    have hentry := hlawful.isLawful
    constructor
    · intro before next hevent
      rwa [hevent] at hentry
    · intro htransfer
      rcases entry with ⟨time, event⟩
      cases event with
      | offered | write | sent => exact hentry
      | _ => cases htransfer
  · rw [LinkState.getLast?_path, htracked.after_eq]

end Scenario

end CommandChannel
