import CommandChannel.Channel.Run
import CommandChannel.Proofs.Disconnecting
import CommandChannel.Proofs.Reconnecting
import CommandChannel.Proofs.RoundTrip
import Mathlib.Logic.Relation

/-!
# Steps of a manager

Everything a manager does is made of few kinds of steps: it opens a connection or fails to, it
makes a round trip over the connection it has, and it ends the connection on request. What all
steps keep holds throughout every run.
-/

namespace CommandChannel

open Relation

namespace Channel

/-- The connection failed between two channels, and was given up. -/
structure Fails (s t : Channel) : Prop where
  manager_eq : ∃ stats, t.manager =
    { s.manager with state := .error, published := .error, link := none, stats }
  world : s.closeLink.world.SameTraffic t.world

/-- After a failure there is no connection, whether there was one before or not. -/
theorem Fails.link_eq {s t : Channel} (h : s.Fails t) : t.manager.link = none := by
  obtain ⟨_, hmanager⟩ := h.manager_eq
  rw [hmanager]

/-- A failure may be told before it takes effect, and is the same failure then. -/
theorem fails_fail (s : Channel) (notice : Notice) : s.Fails (s.tell notice).fail where
  manager_eq := (s.tell notice).manager_fail
  world := by
    have htold : s.world.SameTraffic (s.tell notice).world := s.world.sameTraffic_tell notice
    have hclosed := sameTraffic_closeLink (s := s) (t := s.tell notice) rfl htold
    exact ⟨by simp, fun c => by rw [account_fail, hclosed.account_eq], by simp⟩

/-- What one step of a manager changes, if the frames it offers are among `P`. A manager that is
connected opens no connection. -/
inductive Step (P : List UInt8 → Prop) (s t : Channel) : Prop where
  /-- Only the statistics and the time change, and something is told. -/
  | quiet (hmanager : ∃ stats, t.manager = { s.manager with stats })
      (hworld : s.world.SameTraffic t.world)
  /-- A connection is opened, after attempts that failed. -/
  | opens {count : Nat} {link : Link} (hstate : s.manager.state ≠ .connected)
      (hopens : s.closeLink.Opens count link t)
  /-- An attempt on request fails, and no other is made. -/
  | failsToConnect (hstate : s.manager.state ≠ .connected) (hfails : s.closeLink.FailsToConnect t)
  /-- Attempts fail until none is left. -/
  | givesUp {count : Nat} (hstate : s.manager.state ≠ .connected)
      (hgives : s.closeLink.GivesUp count t)
  /-- A round trip after which the connection is kept. -/
  | trades {link : Link} {trade : Attempt} {replies : List Response}
      {result : Except ChannelError Response} (hstate : s.manager.state = .connected)
      (hlink : s.manager.link = some link) (hframe : P trade.frame)
      (htrades : s.Trades link trade replies result t)
      (hkeeps : ∀ e, result = .error e → e.isTimeout = true)
  /-- A round trip with which the connection fails. -/
  | breaks {link : Link} {trade : Attempt} {replies : List Response} {e : ChannelError}
      {u : Channel} (hstate : s.manager.state = .connected) (hlink : s.manager.link = some link)
      (hframe : P trade.frame) (htrades : s.Trades link trade replies (.error e) u)
      (hfails : u.Fails t)
  /-- The connection is ended on request. -/
  | disconnects (hclose : ∀ frame, Frame.encode (.command .close) = .ok frame → P frame)
      (hdisconnects : s.Disconnects t)

/-- Any number of steps. -/
abbrev Reaches (P : List UInt8 → Prop) : Channel → Channel → Prop := ReflTransGen (Step P)

/-- Whoever is connected has a connection. -/
def Linked (s : Channel) : Prop :=
  s.manager.state = .connected → ∃ link, s.manager.link = some link

section Reach

variable {P : List UInt8 → Prop} {s t : Channel}

/-- A step leaves a manager that is connected with a connection. There is one case for each kind of
step. -/
theorem Step.linked (h : s.Step P t) (hs : s.Linked) : t.Linked := by
  intro hstate
  cases h with
  | quiet hmanager _ =>
    obtain ⟨stats, hmanager⟩ := hmanager
    rw [hmanager] at hstate ⊢
    exact hs hstate
  | opens _ hopens => exact ⟨_, hopens.link_eq⟩
  | failsToConnect _ hfails =>
    obtain ⟨_, hmanager⟩ := hfails.manager_eq
    simp [hmanager] at hstate
  | givesUp _ hgives =>
    obtain ⟨_, hmanager⟩ := hgives.manager_eq
    simp [hmanager] at hstate
  | trades _ _ _ htrades _ =>
    obtain ⟨link', hlink', -⟩ := htrades.exists_link
    exact ⟨link', hlink'⟩
  | breaks _ _ _ _ hfails =>
    obtain ⟨_, hmanager⟩ := hfails.manager_eq
    simp [hmanager] at hstate
  | disconnects _ hdisconnects =>
    obtain ⟨_, hmanager⟩ := hdisconnects.manager_eq
    simp [hmanager] at hstate

/-- What every step keeps holds of all that is reached, by induction on the steps. The invariants of
the theory that are about steps are carried to runs by it. -/
theorem Reaches.keeps {I : Channel → Prop} (hkeeps : ∀ {u v : Channel}, u.Step P v → I u → I v)
    (h : Reaches P s t) (hs : I s) : I t := by
  induction h with
  | refl => exact hs
  | tail _ hstep ih => exact hkeeps hstep ih

/-- Whoever is connected has a connection, whatever was done before, if it was so at the
beginning. -/
theorem Reaches.linked (h : Reaches P s t) (hs : s.Linked) : t.Linked :=
  h.keeps Step.linked hs

/-- What is told is a step of its own, with no effect on the manager. -/
theorem Step.tell (s : Channel) (notice : Notice) : s.Step P (s.tell notice) :=
  .quiet ⟨_, rfl⟩ (s.world.sameTraffic_tell notice)

/-- What is counted is a step of its own, with no effect on connections. -/
theorem Step.count (s : Channel) (f : Stats → Stats) : s.Step P (s.count f) :=
  .quiet ⟨_, rfl⟩ (.refl s.world)

/-- Connecting on request is a step: a quiet one where there is a connection, and else one that
opens a connection or fails to. -/
theorem Step.connect (s : Channel) : s.Step P s.connect.2 := by
  rcases s.connect_cases with ⟨-, h⟩ | ⟨hstate, ⟨link, t, h, hopens⟩ | ⟨t, h, hfails⟩⟩
  · rw [h]
    exact .tell s _
  · rw [h]
    exact .opens hstate hopens
  · rw [h]
    exact .failsToConnect hstate hfails

/-- Connecting again is a step that leaves the manager connected, if it succeeds. -/
theorem Step.reconnect (hstate : s.manager.state ≠ .connected) {done : Bool}
    (h : s.reconnect = (done, t)) :
    s.Step P t ∧ (done = true → t.manager.state = .connected) := by
  rcases s.reconnect_cases with ⟨count, link, u, hu, hopens, -⟩ | ⟨count, u, hu, hgives⟩
  · rw [hu] at h
    cases h
    obtain ⟨_, _, _, hmanager⟩ := hopens.manager_eq
    exact ⟨.opens hstate hopens, fun _ => by rw [hmanager]⟩
  · rw [hu] at h
    cases h
    exact ⟨.givesUp hstate hgives, fun hdone => by cases hdone⟩

/-- Seeing to a connection leaves a manager that is connected as it is, and connects again
otherwise. -/
theorem ensureLink_cases {done : Bool} (h : s.ensureLink = (done, t)) :
    (s.manager.state = .connected ∧ done = true ∧ t = s) ∨
      (s.manager.state ≠ .connected ∧ s.reconnect = (done, t)) := by
  unfold ensureLink at h
  by_cases hstate : s.manager.state = .connected
  · rw [if_pos (LinkState.isConnected_iff.2 hstate)] at h
    cases h
    exact .inl ⟨hstate, rfl, rfl⟩
  · rw [if_neg (fun hconnected => hstate (LinkState.isConnected_iff.1 hconnected))] at h
    exact .inr ⟨hstate, h⟩

/-- Seeing to a connection is made of steps, and leaves the manager connected if it succeeds. -/
theorem Reaches.ensureLink {done : Bool} (h : s.ensureLink = (done, t)) :
    Reaches P s t ∧ (done = true → t.manager.state = .connected) := by
  rcases ensureLink_cases h with ⟨hstate, -, rfl⟩ | ⟨hstate, hreconnect⟩
  · exact ⟨.refl, fun _ => hstate⟩
  · obtain ⟨hstep, hconnected⟩ := Step.reconnect hstate hreconnect
    exact ⟨.single hstep, hconnected⟩

end Reach

end Channel

end CommandChannel
