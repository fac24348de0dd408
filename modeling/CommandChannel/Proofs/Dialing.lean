import CommandChannel.Link.Dial
import CommandChannel.Proofs.Account

/-!
# Connections that are made

Trying addresses either fails, and then every connection that was made on the way was given up
again, or it makes one connection after such failures.
-/

namespace CommandChannel

namespace World

/-- Attempts to connect failed between two worlds, after so many lookups. Every connection that
was made meanwhile was given up, and nothing passed over any connection. -/
structure Seeks (count : Nat) (w w' : World) : Prop where
  /-- No connection that was made is forgotten. -/
  made_le : w.made ≤ w'.made
  /-- Connections that were made in vain were opened and given up; others are untouched. -/
  account_eq : ∀ c, w'.account c =
    if w.made ≤ c ∧ c < w'.made then (w.account c).start.finish else w.account c
  /-- Every attempt looks the peer up. -/
  tally_eq : w'.tally = w.tally.lookUp count

/-- A connection was made between two worlds, and nothing else happened to any connection. -/
structure Makes (link : Link) (w w' : World) : Prop where
  /-- The new connection has the next number. -/
  number_eq : link.number = w.made
  /-- It has taken no bytes yet. -/
  unused : link.outbound.accepted = []
  made_eq : w'.made = w.made + 1
  account_eq : ∀ c, w'.account c =
    if link.number = c then (w.account c).start else w.account c
  tally_eq : w'.tally = w.tally

/-- Lookups alone concern no connection. They may be as many as there are. -/
theorem Seeks.of_unchanged {w w' : World} {count : Nat} (hmade : w'.made = w.made)
    (haccount : ∀ c, w'.account c = w.account c) (htally : w'.tally = w.tally.lookUp count) :
    w.Seeks count w' where
  made_le := Nat.le_of_eq hmade.symm
  account_eq c := by
    rw [if_neg (by omega), haccount c]
  tally_eq := htally

/-- Between a world and itself nothing was tried, and the peer was not looked up. -/
theorem Seeks.refl (w : World) : w.Seeks 0 w := .of_unchanged rfl (fun _ => rfl) rfl

/-- Attempts that fail may be followed by others that fail. The lookups of both add up. -/
theorem Seeks.trans {u v w : World} {m n : Nat} (huv : u.Seeks m v) (hvw : v.Seeks n w) :
    u.Seeks (m + n) w where
  made_le := Nat.le_trans huv.made_le hvw.made_le
  account_eq c := by
    have huv_le := huv.made_le
    have hvw_le := hvw.made_le
    rw [hvw.account_eq, huv.account_eq]
    by_cases hfirst : u.made ≤ c ∧ c < v.made
    · rw [if_neg (by omega), if_pos hfirst, if_pos (by omega)]
    · by_cases hsecond : v.made ≤ c ∧ c < w.made
      · rw [if_pos hsecond, if_neg hfirst, if_pos (by omega)]
      · rw [if_neg hsecond, if_neg hfirst, if_neg (by omega)]
  tally_eq := by rw [hvw.tally_eq, huv.tally_eq, Tally.lookUp_lookUp]

/-- Nothing passes over any connection while attempts fail, also not over those that were made and
given up. -/
theorem Seeks.sameStream {w w' : World} {count : Nat} (h : w.Seeks count w') (c : Nat) :
    (w.account c).SameStream (w'.account c) := by
  rw [h.account_eq]
  split <;> exact ⟨rfl, rfl, rfl⟩

/-- Nothing passes over any connection while one is made, neither over the new one nor over
others. -/
theorem Makes.sameStream {link : Link} {w w' : World} (h : w.Makes link w') (c : Nat) :
    (w.account c).SameStream (w'.account c) := by
  rw [h.account_eq]
  split <;> exact ⟨rfl, rfl, rfl⟩

/-- A connection that is made and given up at once is a failure. This is what becomes of one that
accepts but cannot be set up. -/
theorem Makes.seeks_closed {link : Link} {w w' : World} (h : w.Makes link w') :
    w.Seeks 0 (w'.record (.closed link.number)) where
  made_le := by
    rw [made_record, h.made_eq]
    omega
  account_eq c := by
    have hnumber := h.number_eq
    rw [account_record, h.account_eq, made_record, h.made_eq]
    by_cases hc : link.number = c
    · rw [if_pos hc, if_pos (by omega)]
      simp [Account.note, hc]
    · rw [if_neg hc, if_neg (by omega)]
      simp [Account.note, hc]
  tally_eq := by simpa [Tally.note] using h.tally_eq

end World

namespace Link

/-- One attempt to connect either fails or makes a connection. There is no lookup in it. -/
theorem dial_cases (addr : SocketAddr) (limit : Duration) (w : World) :
    (∃ error w', dial addr limit w = (.error error, w') ∧ w.Seeks 0 w') ∨
      ∃ link w', dial addr limit w = (.ok link, w') ∧ w.Makes link w' := by
  have hfails {w' : World} (hmade : w'.made = w.made)
      (hhistory : w'.history = (w.record (.dial addr limit)).history) : w.Seeks 0 w' := by
    refine .of_unchanged hmade (fun c => ?_) ?_
    · unfold World.account
      rw [hhistory]
      rfl
    · unfold World.tally
      rw [hhistory]
      rfl
  unfold dial
  simp only
  split
  · refine .inl ⟨_, _, rfl, ?_⟩
    exact hfails rfl rfl
  · split
    · refine .inl ⟨_, _, rfl, ?_⟩
      exact hfails rfl rfl
    · split
      all_goals
        refine .inl ⟨_, _, rfl, ?_⟩
        exact hfails rfl rfl
    · split
      · refine .inl ⟨_, _, rfl, ?_⟩
        exact hfails rfl rfl
      · refine .inr ⟨_, _, rfl, ?_⟩
        exact ⟨rfl, rfl, rfl, fun _ => rfl, rfl⟩

/-- Setting a connection up does not use it: its number stays, and nothing is written to it. -/
theorem setUp_eq_ok {link link' : Link} {limit : Duration} (h : link.setUp limit = .ok link') :
    link'.number = link.number ∧ link'.outbound.accepted = link.outbound.accepted := by
  obtain ⟨number, inbound, outbound, faults, peerAddr, localAddr⟩ := link
  obtain ⟨read, write, nodelay, peer, duplicate, own, shutdown⟩ := faults
  -- Only the set-up without any fault succeeds.
  cases read <;> cases write <;> cases nodelay <;> cases peer <;> cases duplicate <;> cases h
  exact ⟨rfl, rfl⟩

/-- Trying addresses in turn fails, or makes a connection after some failures. The induction is on
the addresses that are left. -/
theorem connectAfter_cases (failure : ChannelError) (limit : Duration) (addrs : List SocketAddr)
    (w : World) :
    (∃ e w', connectAfter failure limit addrs w = (.error e, w') ∧ w.Seeks 0 w') ∨
      ∃ link u w', connectAfter failure limit addrs w = (.ok link, w') ∧ w.Seeks 0 u ∧
        u.Makes link w' := by
  induction addrs generalizing failure w with
  | nil => exact .inl ⟨failure, w, rfl, .refl w⟩
  | cons addr addrs ih =>
    unfold connectAfter
    rcases dial_cases addr limit w with ⟨error, u, hdial, hseeks⟩ | ⟨link, u, hdial, hmakes⟩
    · rw [hdial]
      rcases ih (.connectFailed addr error) u with ⟨e, w', hrest, hseeks'⟩ |
        ⟨link, v, w', hrest, hseeks', hmakes⟩
      · exact .inl ⟨e, w', hrest, hseeks.trans hseeks'⟩
      · exact .inr ⟨link, v, w', hrest, hseeks.trans hseeks', hmakes⟩
    · rw [hdial]
      cases hsetUp : link.setUp limit with
      | error error =>
        refine .inl ⟨.io error, _, ?_, hmakes.seeks_closed⟩
        simp only [hsetUp]
      | ok link' =>
        obtain ⟨hnumber, haccepted⟩ := setUp_eq_ok hsetUp
        refine .inr ⟨link', w, u, by simp only [hsetUp], .refl w, ?_⟩
        exact ⟨hnumber.trans hmakes.number_eq, haccepted.trans hmakes.unused, hmakes.made_eq,
          fun c => by rw [hnumber, hmakes.account_eq], hmakes.tally_eq⟩

/-- Connecting to the first of some addresses that accepts fails, or makes a connection after some
failures. -/
theorem connect_cases (addrs : List SocketAddr) (limit : Duration) (w : World) :
    (∃ e w', connect addrs limit w = (.error e, w') ∧ w.Seeks 0 w') ∨
      ∃ link u w', connect addrs limit w = (.ok link, w') ∧ w.Seeks 0 u ∧ u.Makes link w' :=
  connectAfter_cases (.io noAddress) limit addrs w

end Link

end CommandChannel
