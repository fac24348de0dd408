import CommandChannel.Proofs.Runs

/-!
# Managers between operations

Between operations a manager is at rest, connected or in the state of an error, and what it keeps
agrees with its state and with what happened to the connections: all of them were given up except
the one it has.
-/

namespace CommandChannel

open Relation

/-- What a manager keeps agrees with its state, and no connection is being made. -/
structure Manager.Settled (m : Manager) : Prop where
  /-- Between operations a manager neither connects nor connects again. -/
  state_cases : m.state = .disconnected ∨ m.state = .connected ∨ m.state = .error
  /-- A connection is held exactly while the manager is connected. -/
  isSome_link : m.link.isSome = true ↔ m.state = .connected
  /-- Those who do not wait see the state as it is. -/
  published_eq : m.published = m.state
  /-- With a connection the count of failed attempts begins anew. -/
  attempts_of_connected : m.state = .connected → m.attempts = 0
  /-- A series of attempts is never left half way. -/
  attempts_cases : m.attempts = 0 ∨ m.attempts = m.config.backoff.maxAttempts
  /-- The monitor that is held is of the present epoch, and at rest none is held. -/
  heartbeat : ∀ handle, m.heartbeat = some handle →
    handle.epoch = m.epoch ∧ m.state ≠ .disconnected

/-- A failure leaves a manager without a connection, and its monitor as it was. The monitor is of
the present epoch still, and it is allowed to run in the state of an error. -/
theorem Manager.Settled.fails {m m' : Manager} (h : m.Settled) (hstate : m'.state = .error)
    (hpublished : m'.published = .error) (hlink : m'.link = none)
    (hattempts : m'.attempts = 0 ∨ m'.attempts = m'.config.backoff.maxAttempts)
    (hheartbeat : m'.heartbeat = m.heartbeat) (hepoch : m'.epoch = m.epoch) : m'.Settled where
  state_cases := .inr (.inr hstate)
  isSome_link := by simp [hlink, hstate]
  published_eq := hpublished.trans hstate.symm
  attempts_of_connected := by simp [hstate]
  attempts_cases := hattempts
  heartbeat := by
    intro handle hhandle
    rw [hheartbeat] at hhandle
    exact ⟨hepoch ▸ (h.heartbeat handle hhandle).1, by simp [hstate]⟩

/-- All connections that were made were given up except the current one, if there is one. -/
structure World.Ledger (w : World) (current : Option Nat) : Prop where
  /-- Of a connection that was not made yet nothing is told. -/
  unmade : ∀ c, w.made ≤ c → w.account c = {}
  /-- Numbers are given to connections without a gap. -/
  opened : ∀ c, c < w.made → (w.account c).opened = true
  /-- Only the current connection is not given up. -/
  closed_iff : ∀ c, c < w.made → ((w.account c).closed = false ↔ current = some c)
  /-- The current connection is one of those that were made. -/
  current_lt : ∀ c, current = some c → c < w.made

namespace World.Ledger

variable {w w' : World} {current : Option Nat}

/-- Nothing but the connections and what happened to them counts. So whatever else changes in a
world, its ledger is the same. -/
theorem of_eq (h : w.Ledger current) (hmade : w'.made = w.made)
    (haccount : ∀ c, w'.account c = w.account c) : w'.Ledger current where
  unmade c hc := by
    rw [haccount]
    exact h.unmade c (hmade ▸ hc)
  opened c hc := by
    rw [haccount]
    exact h.opened c (hmade ▸ hc)
  closed_iff c hc := by
    rw [haccount]
    exact h.closed_iff c (hmade ▸ hc)
  current_lt c hc := by
    rw [hmade]
    exact h.current_lt c hc

/-- Connections that were made in vain were given up, so that after attempts that failed none is in
use. -/
theorem seeks {count : Nat} (h : w.Ledger none) (hw : w.Seeks count w') : w'.Ledger none where
  unmade c hc := by
    have hle := hw.made_le
    rw [hw.account_eq, if_neg (by omega)]
    exact h.unmade c (by omega)
  opened c hc := by
    rw [hw.account_eq]
    split
    · rfl
    · exact h.opened c (by omega)
  closed_iff c hc := by
    rw [hw.account_eq]
    split
    · simp [Account.finish]
    · exact h.closed_iff c (by omega)
  current_lt c hc := by cases hc

/-- A connection that was made is the current one, if none was in use before it. -/
theorem makes {link : Link} (h : w.Ledger none) (hw : w.Makes link w') :
    w'.Ledger (some link.number) where
  unmade c hc := by
    have hnumber := hw.number_eq
    rw [hw.made_eq] at hc
    rw [hw.account_eq, if_neg (by omega)]
    exact h.unmade c (by omega)
  opened c hc := by
    have hnumber := hw.number_eq
    rw [hw.made_eq] at hc
    rw [hw.account_eq]
    split
    · rfl
    · exact h.opened c (by omega)
  closed_iff c hc := by
    have hnumber := hw.number_eq
    rw [hw.made_eq] at hc
    rw [hw.account_eq]
    by_cases hcurrent : link.number = c
    · rw [if_pos hcurrent, h.unmade c (by omega)]
      simp [Account.start, hcurrent]
    · rw [if_neg hcurrent, h.closed_iff c (by omega)]
      simp [hcurrent]
  current_lt c hc := by
    have hnumber := hw.number_eq
    rw [hw.made_eq]
    cases hc
    omega

/-- Something happens to the current connection alone, which is given up or stays the current
one. -/
theorem touches {c₀ : Nat} {current' : Option Nat} (h : w.Ledger (some c₀))
    (hmade : w'.made = w.made) (hother : ∀ c, c₀ ≠ c → w'.account c = w.account c)
    (hopened : (w'.account c₀).opened = (w.account c₀).opened)
    (hclosed : (w'.account c₀).closed = false ↔ current' = some c₀)
    (hcurrent : ∀ c, current' = some c → c₀ = c) : w'.Ledger current' where
  unmade c hc := by
    have hlt := h.current_lt c₀ rfl
    rw [hother c (by omega)]
    exact h.unmade c (by omega)
  opened c hc := by
    by_cases hc₀ : c₀ = c
    · rw [← hc₀, hopened]
      exact h.opened c₀ (h.current_lt c₀ rfl)
    · rw [hother c hc₀]
      exact h.opened c (by omega)
  closed_iff c hc := by
    by_cases hc₀ : c₀ = c
    · rw [← hc₀]
      exact hclosed
    · rw [hother c hc₀, h.closed_iff c (by omega)]
      have hnot : current' ≠ some c := fun h' => hc₀ (hcurrent c h')
      simp [hc₀, hnot]
  current_lt c hc := by
    rw [hmade, ← hcurrent c hc]
    exact h.current_lt c₀ rfl

end World.Ledger

namespace Channel

/-- The number of the connection that the manager has. -/
def conn (s : Channel) : Option Nat := s.manager.link.map Link.number

/-- The number of the connection is that of the one the manager holds. -/
theorem conn_eq {s : Channel} {link : Link} (h : s.manager.link = some link) :
    s.conn = some link.number := by
  rw [conn, h]
  rfl

/-- A manager without a connection has no number of one, so that its ledger has none in use. -/
theorem conn_eq_none {s : Channel} (h : s.manager.link = none) : s.conn = none := by
  rw [conn, h]
  rfl

/-- What holds of a channel between operations. -/
structure Consistent (s : Channel) : Prop where
  settled : s.manager.Settled
  ledger : s.world.Ledger s.conn

section Step

variable {P : List UInt8 → Prop} {s t : Channel}

/-- No step changes the configuration, so that limits may be taken from any channel of a run. -/
theorem Step.config_eq (h : s.Step P t) : t.manager.config = s.manager.config := by
  cases h with
  | quiet hmanager _ =>
    obtain ⟨_, hmanager⟩ := hmanager
    rw [hmanager]
  | opens _ hopens =>
    obtain ⟨_, _, _, hmanager⟩ := hopens.manager_eq
    rw [hmanager, manager_closeLink]
  | failsToConnect _ hfails =>
    obtain ⟨_, hmanager⟩ := hfails.manager_eq
    rw [hmanager, manager_closeLink]
  | givesUp _ hgives =>
    obtain ⟨_, hmanager⟩ := hgives.manager_eq
    rw [hmanager, manager_closeLink]
  | trades _ _ _ htrades _ =>
    obtain ⟨_, _, _, _, _, _, hmanager⟩ := htrades.manager_eq
    rw [hmanager]
  | breaks _ _ _ htrades hfails =>
    obtain ⟨_, _, _, _, _, _, hmanager⟩ := htrades.manager_eq
    obtain ⟨_, hfailed⟩ := hfails.manager_eq
    rw [hfailed, hmanager]
  | disconnects _ hdisconnects =>
    obtain ⟨_, hmanager⟩ := hdisconnects.manager_eq
    rw [hmanager]

/-- A connection that was opened leaves the manager connected and without failed attempts. Its
monitor is of the present epoch if the one it had before was. -/
theorem Opens.settled {count : Nat} {link : Link} (h : s.Opens count link t)
    (hmonitor : ∀ handle, s.manager.heartbeat = some handle → handle.epoch = s.manager.epoch) :
    t.manager.Settled := by
  obtain ⟨stats, heartbeat, activity, hmanager⟩ := h.manager_eq
  have hcases := h.heartbeat_cases
  rw [hmanager] at hcases ⊢
  refine ⟨.inr (.inl rfl), by simp, rfl, fun _ => rfl, .inl rfl, ?_⟩
  intro handle hhandle
  refine ⟨?_, by simp⟩
  rcases hcases with hsame | ⟨-, thread, hstarted⟩
  · exact hmonitor handle (hsame ▸ hhandle)
  · have heq : some handle = some ⟨s.manager.epoch, thread⟩ := hhandle.symm.trans hstarted
    rw [Option.some_inj.1 heq]

/-- A round trip changes no more than the connection and what it counts, so that the manager agrees
with its state after it too. -/
theorem Trades.settled {link : Link} {trade : Attempt} {replies : List Response}
    {result : Except ChannelError Response} (h : s.Trades link trade replies result t)
    (hstate : s.manager.state = .connected) (hs : s.manager.Settled) : t.manager.Settled := by
  obtain ⟨_, _, _, _, _, _, hmanager⟩ := h.manager_eq
  rw [hmanager]
  exact ⟨hs.state_cases, by simp [hstate], hs.published_eq, hs.attempts_of_connected,
    hs.attempts_cases, hs.heartbeat⟩

/-- Every step leaves a manager that agrees with its state. There is one case for each kind of
step. -/
theorem Step.settled (h : s.Step P t) (hs : s.manager.Settled) : t.manager.Settled := by
  cases h with
  | quiet hmanager _ =>
    obtain ⟨_, hmanager⟩ := hmanager
    rw [hmanager]
    exact ⟨hs.state_cases, hs.isSome_link, hs.published_eq, hs.attempts_of_connected,
      hs.attempts_cases, hs.heartbeat⟩
  | opens _ hopens =>
    apply hopens.settled
    intro handle hhandle
    rw [manager_closeLink] at hhandle ⊢
    exact (hs.heartbeat handle hhandle).1
  | failsToConnect _ hfails =>
    obtain ⟨_, hmanager⟩ := hfails.manager_eq
    rw [hmanager, manager_closeLink]
    exact hs.fails rfl rfl rfl hs.attempts_cases rfl rfl
  | @givesUp count _ hgives =>
    obtain ⟨_, hmanager⟩ := hgives.manager_eq
    have hwithin := hgives.within
    have hexhausted := hgives.exhausted
    have hattempts := hs.attempts_cases
    rw [manager_closeLink] at hwithin hexhausted
    simp only at hwithin hexhausted
    rw [hmanager, manager_closeLink]
    refine hs.fails rfl rfl rfl ?_ rfl rfl
    simp only
    -- A budget that was used up before allows no attempt, and one that was not is used up now.
    omega
  | trades hstate _ _ htrades _ => exact htrades.settled hstate hs
  | breaks hstate _ _ htrades hfails =>
    obtain ⟨_, hmanager⟩ := hfails.manager_eq
    have hu := htrades.settled hstate hs
    rw [hmanager]
    exact hu.fails rfl rfl rfl hu.attempts_cases rfl rfl
  | disconnects _ hdisconnects =>
    obtain ⟨_, hmanager⟩ := hdisconnects.manager_eq
    rw [hmanager]
    refine ⟨.inl rfl, by simp, rfl, by simp, hs.attempts_cases, ?_⟩
    intro handle hhandle
    cases hhandle

/-- Giving the connection up leaves none that was not given up. -/
theorem ledger_closeLink (h : s.world.Ledger s.conn) : s.closeLink.world.Ledger none := by
  cases hlink : s.manager.link with
  | none =>
    rw [closeLink_of_none hlink]
    rwa [conn_eq_none hlink] at h
  | some link =>
    have hconn : s.conn = some link.number := conn_eq hlink
    rw [hconn] at h
    refine h.touches (made_closeLink s) ?_ ?_ ?_ ?_
    · intro c hc
      rw [account_closeLink hlink, if_neg hc]
    · rw [account_closeLink hlink, if_pos rfl]
      rfl
    · rw [account_closeLink hlink, if_pos rfl]
      simp [Account.finish]
    · intro c hc
      cases hc

/-- A round trip leaves the connection as the current one, whatever it ends in. -/
theorem Trades.ledger {link : Link} {trade : Attempt} {replies : List Response}
    {result : Except ChannelError Response} (h : s.Trades link trade replies result t)
    (hlink : s.manager.link = some link) (hs : s.world.Ledger s.conn) :
    t.world.Ledger t.conn := by
  obtain ⟨link', hlink', hnumber, -⟩ := h.exists_link
  have hconn : s.conn = some link.number := conn_eq hlink
  have hconn' : t.conn = some link.number := by rw [conn_eq hlink', hnumber]
  rw [hconn] at hs
  rw [hconn']
  refine hs.touches h.made_eq ?_ ?_ ?_ ?_
  · intro c hc
    rw [h.account_eq, if_neg hc]
  · rw [h.account_eq, if_pos rfl]
  · rw [h.account_eq, if_pos rfl]
    exact hs.closed_iff _ (hs.current_lt _ rfl)
  · intro c hc
    exact Option.some_inj.1 hc

/-- A new connection was not used before: all that its account tells is that it was made. -/
theorem Opens.account_eq {count : Nat} {link : Link} (h : s.Opens count link t)
    (hs : s.world.Ledger none) : t.world.account link.number = Account.start {} := by
  obtain ⟨u, hseeks, hmakes⟩ := h.world
  have hunmade : u.account link.number = {} :=
    (hs.seeks hseeks).unmade _ (Nat.le_of_eq hmakes.number_eq.symm)
  rw [hmakes.account_eq, if_pos rfl, hunmade]

/-- Ending the connection on request leaves none that was not given up. -/
theorem Disconnects.ledger (h : s.Disconnects t) (hs : s.world.Ledger s.conn) :
    t.world.Ledger t.conn := by
  rw [conn_eq_none h.link_eq]
  rcases h.account_cases with hclosed | ⟨link, frame, taken, hlink, -, -, haccount⟩
  · exact (ledger_closeLink hs).of_eq (by rw [h.made_eq, made_closeLink]) hclosed
  · have hconn : s.conn = some link.number := conn_eq hlink
    rw [hconn] at hs
    refine hs.touches h.made_eq ?_ ?_ ?_ ?_
    · intro c hc
      rw [haccount, if_neg hc]
    · rw [haccount, if_pos rfl]
      rfl
    · rw [haccount, if_pos rfl]
      simp [Account.finish]
    · intro c hc
      cases hc

/-- Every step leaves all connections given up except the one in use. There is one case for each
kind of step. -/
theorem Step.ledger (h : s.Step P t) (hs : s.world.Ledger s.conn) : t.world.Ledger t.conn := by
  cases h with
  | quiet hmanager hworld =>
    obtain ⟨_, hmanager⟩ := hmanager
    have hconn : t.conn = s.conn := by rw [conn, hmanager]; rfl
    rw [hconn]
    exact hs.of_eq hworld.made_eq hworld.account_eq
  | opens _ hopens =>
    obtain ⟨u, hseeks, hmakes⟩ := hopens.world
    rw [conn_eq hopens.link_eq]
    exact ((ledger_closeLink hs).seeks hseeks).makes hmakes
  | failsToConnect _ hfails =>
    rw [conn_eq_none hfails.link_eq]
    exact (ledger_closeLink hs).seeks hfails.world
  | givesUp _ hgives =>
    rw [conn_eq_none (hgives.link_eq.trans s.link_closeLink)]
    exact (ledger_closeLink hs).seeks hgives.world
  | trades _ hlink _ htrades _ => exact htrades.ledger hlink hs
  | breaks _ hlink _ htrades hfails =>
    rw [conn_eq_none hfails.link_eq]
    exact (ledger_closeLink (htrades.ledger hlink hs)).of_eq hfails.world.made_eq
      hfails.world.account_eq
  | disconnects _ hdisconnects => exact hdisconnects.ledger hs

/-- Every step keeps what a manager keeps in agreement with its state and its connections. -/
theorem Step.consistent (h : s.Step P t) (hs : s.Consistent) : t.Consistent :=
  ⟨h.settled hs.settled, h.ledger hs.ledger⟩

/-- Agreement between a manager, its state and its connections lasts, by induction on the steps. -/
theorem Reaches.consistent (h : Reaches P s t) (hs : s.Consistent) : t.Consistent :=
  h.keeps Step.consistent hs

/-- The configuration stays that of the beginning, however many steps are made. -/
theorem Reaches.config_eq (h : Reaches P s t) : t.manager.config = s.manager.config := by
  refine h.keeps (I := fun u => u.manager.config = s.manager.config) ?_ rfl
  intro u v hstep hu
  exact hstep.config_eq.trans hu

end Step

section Consistent

variable {s : Channel}

/-- The connection that a manager has is one that was made and not given up yet, and it is the only
one of them. -/
theorem Consistent.isOpen_iff (h : s.Consistent) (c : Nat) :
    (s.world.account c).isOpen = true ↔ s.conn = some c := by
  unfold Account.isOpen
  by_cases hc : c < s.world.made
  · simp [h.ledger.opened c hc, h.ledger.closed_iff c hc]
  · have hnot : s.conn ≠ some c := fun h' => hc (h.ledger.current_lt c h')
    simp [h.ledger.unmade c (by omega), hnot]

end Consistent

end Channel

namespace Scenario

open Channel

variable (sc : Scenario)

/-- A manager at rest has no connection, and none was made. -/
theorem consistent_start : sc.start.Consistent where
  settled := by
    refine ⟨.inl rfl, by simp [start, Channel.start], rfl, fun _ => rfl, .inl rfl, ?_⟩
    intro handle hhandle
    cases hhandle
  ledger := by
    refine ⟨fun _ _ => rfl, ?_, ?_, ?_⟩
    · intro c hc
      exact absurd hc (Nat.not_lt_zero c)
    · intro c hc
      exact absurd hc (Nat.not_lt_zero c)
    · intro c hc
      cases hc

/-- Between operations a manager agrees with its state and its connections. The other invariants of
runs rest on this one. -/
theorem consistent_after (operations : List Operation) : (sc.after operations).Consistent :=
  (sc.reaches_after operations).consistent sc.consistent_start

/-- Whatever a manager was asked to do before, between operations it is at rest, connected or in
the state of an error, and it has a connection exactly while it is connected. All connections that
were made before are given up, no failed attempts are counted while it is connected, otherwise none
or as many as are allowed, and a monitor is of the present epoch. -/
theorem representation_after (operations : List Operation) :
    let m := (sc.after operations).manager
    let account := (sc.after operations).world.account
    (m.state = .disconnected ∨ m.state = .connected ∨ m.state = .error) ∧
    (m.link.isSome = true ↔ m.state = .connected) ∧
    m.published = m.state ∧
    (∀ c, (account c).opened = true → (∀ link, m.link = some link → link.number ≠ c) →
      (account c).closed = true) ∧
    (∀ c d, (account c).isOpen = true → (account d).isOpen = true → c = d) ∧
    (m.state = .connected → m.attempts = 0) ∧
    (m.attempts = 0 ∨ m.attempts = sc.config.backoff.maxAttempts) ∧
    ∀ handle, m.heartbeat = some handle → handle.epoch = m.epoch ∧ m.state ≠ .disconnected := by
  intro m account
  have hconsistent := sc.consistent_after operations
  have hsettled := hconsistent.settled
  have hconfig : m.config = sc.config := (sc.reaches_after operations).config_eq
  refine ⟨hsettled.state_cases, hsettled.isSome_link, hsettled.published_eq, ?_, ?_,
    hsettled.attempts_of_connected, hconfig ▸ hsettled.attempts_cases, hsettled.heartbeat⟩
  · intro c hopened hother
    cases hclosed : (account c).closed with
    | true => rfl
    | false =>
      have hopen : (account c).isOpen = true := by simp [Account.isOpen, hopened, hclosed]
      obtain ⟨link, hlink, hnumber⟩ :=
        Option.map_eq_some_iff.1 ((hconsistent.isOpen_iff c).1 hopen)
      exact absurd hnumber (hother link hlink)
  · intro c d hc hd
    have hcd := ((hconsistent.isOpen_iff c).1 hc).symm.trans ((hconsistent.isOpen_iff d).1 hd)
    exact Option.some_inj.1 hcd

end Scenario

end CommandChannel
