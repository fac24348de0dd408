import CommandChannel.Proofs.Consistency

/-!
# Replies and the commands they answer

The replies that are owed on a connection are the frames of commands that it took less the replies
that were read from it. An answer is therefore the reply that stands among the replies where the
frame of its command stands among the frames.
-/

namespace CommandChannel

open Relation

namespace Account

/-- One more attempt adds its frame to the whole frames if it was taken as a whole. -/
theorem frames_of_attempts_eq {account account' : Account} {trade : Attempt}
    (h : account'.attempts = trade :: account.attempts) :
    account'.frames =
      if trade.isWhole = true then account.frames ++ [trade.frame] else account.frames := by
  unfold frames
  rw [h, List.reverse_cons, List.filter_append, List.map_append]
  by_cases hwhole : trade.isWhole = true
  · rw [if_pos hwhole, List.filter_cons_of_pos hwhole]
    rfl
  · rw [if_neg hwhole, List.filter_cons_of_neg hwhole]
    exact List.append_nil _

/-- Where nothing passes over a connection, its frames stay in their places. -/
theorem SameStream.frames_grow {account account' : Account} (h : account.SameStream account') :
    account.frames <+: account'.frames := h.frames_eq ▸ List.prefix_rfl

/-- One more attempt leaves the earlier frames in their places, whether it adds its own or not. -/
theorem frames_grow_of_attempts_eq {account account' : Account} {trade : Attempt}
    (h : account'.attempts = trade :: account.attempts) : account.frames <+: account'.frames := by
  rw [frames_of_attempts_eq h]
  split
  · exact List.prefix_append _ _
  · exact List.prefix_rfl

end Account

namespace Channel

/-- On the connection in use the replies that are owed and those that were read are as many as the
frames that it took. -/
def Correlated (s : Channel) : Prop :=
  ∀ link, s.manager.link = some link →
    s.manager.owedReplies + (s.world.account link.number).received.length =
      (s.world.account link.number).frames.length

section Correlated

variable {s t : Channel}

/-- Without a connection nothing is owed, as what is owed is owed on a connection. -/
theorem correlated_of_none (hlink : t.manager.link = none) : t.Correlated := by
  intro link h
  rw [hlink] at h
  cases h

/-- The frames of a connection after a round trip over it: one more if the connection took it as a
whole, however the round trip ended. -/
theorem Trades.frames_eq {link : Link} {trade : Attempt} {replies : List Response}
    {result : Except ChannelError Response} (h : s.Trades link trade replies result t) :
    (t.world.account link.number).frames =
      if trade.isWhole = true then (s.world.account link.number).frames ++ [trade.frame]
      else (s.world.account link.number).frames := by
  apply Account.frames_of_attempts_eq
  rw [h.account_eq, if_pos rfl]

/-- The replies of a connection after a round trip over it are those that were read on the way,
after all earlier ones. -/
theorem Trades.received_eq {link : Link} {trade : Attempt} {replies : List Response}
    {result : Except ChannelError Response} (h : s.Trades link trade replies result t) :
    (t.world.account link.number).received =
      (s.world.account link.number).received ++ replies.reverse := by
  unfold Account.received
  rw [h.account_eq, if_pos rfl, List.reverse_append]

/-- A round trip after which the connection is kept keeps the count of owed replies: a frame that
left is owed a reply, and one that did not leave at all is not. -/
theorem Trades.correlated {link : Link} {trade : Attempt} {replies : List Response}
    {result : Except ChannelError Response} (h : s.Trades link trade replies result t)
    (hlink : s.manager.link = some link) (hframe : trade.frame ≠ [])
    (hkeeps : ∀ e, result = .error e → e.isTimeout = true) (hs : s.Correlated) : t.Correlated := by
  obtain ⟨link', hlink', hnumber, -⟩ := h.exists_link
  have hbefore := hs link hlink
  intro other hother
  rw [hlink'] at hother
  rw [← Option.some_inj.1 hother, hnumber, h.received_eq, h.frames_eq, List.length_append,
    List.length_reverse]
  cases hconfirmed : trade.confirmed with
  | true =>
    obtain ⟨hwhole, howed⟩ := h.sent hconfirmed
    rw [if_pos (Attempt.isWhole_iff.2 hwhole), List.length_append, List.length_singleton]
    omega
  | false =>
    -- Time was up before anything left, and a frame is not empty: it does not count as taken.
    obtain ⟨hreplies, howed, e, hresult, -, htimeout⟩ := h.unsent hconfirmed
    have hnothing := htimeout (hkeeps e hresult)
    rw [if_neg, hreplies, howed, List.length_nil]
    · exact hbefore
    · intro hwhole
      exact hframe ((Attempt.isWhole_iff.1 hwhole).symm.trans hnothing)

/-- A new connection owes nothing and took nothing, so the counts start out equal. -/
theorem Opens.correlated {count : Nat} {link : Link} (h : s.Opens count link t)
    (hledger : s.world.Ledger none) : t.Correlated := by
  obtain ⟨_, _, _, hmanager⟩ := h.manager_eq
  intro other hother
  rw [hmanager] at hother ⊢
  rw [← Option.some_inj.1 hother, h.account_eq hledger]
  rfl

/-- Every step keeps the count of owed replies. A step that fails gives the connection up, and
nothing is claimed of it any longer. -/
theorem Step.correlated (h : s.Step (· ≠ []) t) (hledger : s.world.Ledger s.conn)
    (hs : s.Correlated) : t.Correlated := by
  cases h with
  | quiet hmanager hworld =>
    obtain ⟨_, hmanager⟩ := hmanager
    intro link hlink
    rw [hmanager] at hlink ⊢
    rw [hworld.account_eq]
    exact hs link hlink
  | opens _ hopens => exact hopens.correlated (ledger_closeLink hledger)
  | failsToConnect _ hfails => exact correlated_of_none hfails.link_eq
  | givesUp _ hgives => exact correlated_of_none (hgives.link_eq.trans s.link_closeLink)
  | trades _ hlink hframe htrades hkeeps => exact htrades.correlated hlink hframe hkeeps hs
  | breaks _ _ _ _ hfails => exact correlated_of_none hfails.link_eq
  | disconnects _ hdisconnects => exact correlated_of_none hdisconnects.link_eq

/-- The count of owed replies stays right, whatever is reached. The induction carries the agreement
with the connections along, since a new connection must not have been used before. -/
theorem Reaches.correlated (h : Reaches (· ≠ []) s t) (hconsistent : s.Consistent)
    (hs : s.Correlated) : t.Correlated := by
  refine (h.keeps (I := fun u => u.Consistent ∧ u.Correlated) ?_ ⟨hconsistent, hs⟩).2
  rintro u v hstep ⟨hu, hcorrelated⟩
  exact ⟨hstep.consistent hu, hstep.correlated hu.ledger hcorrelated⟩

/-- An answer is the last reply that was read from the connection. -/
theorem Trades.getLast?_received {link : Link} {trade : Attempt} {replies : List Response}
    {reply : Response} (h : s.Trades link trade replies (.ok reply) t) :
    (t.world.account link.number).received.getLast? = some reply := by
  rw [h.received_eq, List.getLast?_append, List.getLast?_reverse, (h.answer reply rfl).2.2]
  rfl

end Correlated

section Growth

variable {P : List UInt8 → Prop} {s t : Channel}

/-- A round trip adds one frame to those of the connection, or none, and nothing to those of
others. -/
theorem Trades.frames_grow {link : Link} {trade : Attempt} {replies : List Response}
    {result : Except ChannelError Response} (h : s.Trades link trade replies result t) (c : Nat) :
    (s.world.account c).frames <+: (t.world.account c).frames := by
  rw [h.account_eq]
  split
  · exact Account.frames_grow_of_attempts_eq rfl
  · exact List.prefix_rfl

/-- The closing frame is added to those of the connection, or it is not. The frames before it stay
in their places. -/
theorem Disconnects.frames_grow (h : s.Disconnects t) (c : Nat) :
    (s.world.account c).frames <+: (t.world.account c).frames := by
  rcases h.account_cases with hclosed | ⟨link, frame, taken, -, -, -, haccount⟩
  · rw [hclosed]
    exact (s.sameStream_closeLink c).frames_grow
  · rw [haccount]
    split
    · exact Account.frames_grow_of_attempts_eq rfl
    · exact List.prefix_rfl

/-- A frame that a connection took keeps its place, whatever step is made. -/
theorem Step.frames_grow (h : s.Step P t) (c : Nat) :
    (s.world.account c).frames <+: (t.world.account c).frames := by
  cases h with
  | quiet _ hworld => exact (hworld.sameStream c).frames_grow
  | opens _ hopens =>
    exact ((s.sameStream_closeLink c).trans (hopens.sameStream c)).frames_grow
  | failsToConnect _ hfails =>
    exact ((s.sameStream_closeLink c).trans (hfails.world.sameStream c)).frames_grow
  | givesUp _ hgives =>
    exact ((s.sameStream_closeLink c).trans (hgives.world.sameStream c)).frames_grow
  | trades _ _ _ htrades _ => exact htrades.frames_grow c
  | @breaks _ _ _ _ u _ _ _ htrades hfails =>
    have hfailed := ((u.sameStream_closeLink c).trans (hfails.world.sameStream c)).frames_grow
    exact (htrades.frames_grow c).trans hfailed
  | disconnects _ hdisconnects => exact hdisconnects.frames_grow c

/-- A frame that a connection took keeps its place, whatever is reached. So the place of a frame is
a name for it that lasts. -/
theorem Reaches.frames_grow (h : Reaches P s t) (c : Nat) :
    (s.world.account c).frames <+: (t.world.account c).frames := by
  refine h.keeps (I := fun u => (s.world.account c).frames <+: (u.world.account c).frames) ?_
    List.prefix_rfl
  intro u v hstep hu
  exact hu.trans (hstep.frames_grow c)

end Growth

section Answers

variable {frame : List UInt8} {resends : Nat} {trips : List Trip} {outcome : Outcome}
  {s t : Channel}

/-- A command ends in a failure without an answer, or in the outcome of the reply with which its
round trip ended. -/
theorem Ending.outcome_cases {trip : Trip} (h : Ending trip resends outcome t) :
    (∃ text recoverable, outcome = .fail text recoverable ∧ ∃ e, trip.result = .error e) ∨
    ∃ reply, outcome = reply.toOutcome ∧ trip.result = .ok reply ∧ t = trip.after := by
  cases h with
  | answered hresult => exact .inr ⟨_, rfl, hresult, rfl⟩
  | timedOut hresult _ => exact .inl ⟨_, _, rfl, _, hresult⟩
  | failed hresult _ _ => exact .inl ⟨_, _, rfl, _, hresult⟩
  | lost hresult _ => exact .inl ⟨_, _, rfl, _, hresult⟩
  | lostForGood hresult _ _ => exact .inl ⟨_, _, rfl, _, hresult⟩

/-- Seeing to a connection answers no command, whether it comes to one or not. -/
theorem answers_ensureLink {done : Bool} (h : s.ensureLink = (done, t)) :
    t.world.tally.answers = s.world.tally.answers := by
  obtain ⟨count, htally, -⟩ := exists_lookUp_of_ensureLink h
  rw [htally]
  rfl

/-- A round trip that ends in an error answers no command, whatever late replies it passed over. -/
theorem Trip.Runs.answers_of_error {trip : Trip} (h : trip.Runs frame) (hframe : frame ≠ [])
    {e : ChannelError} (hresult : trip.result = .error e) :
    trip.after.world.tally.answers = trip.before.world.tally.answers := by
  rw [h.tally_eq hframe, hresult]
  rfl

/-- The outcome of a command is a failure, and it was not answered, or it is that of the reply with
which its last round trip ended. -/
theorem Course.outcome_cases (h : Course frame resends s trips outcome t) (hframe : frame ≠ []) :
    (∃ text recoverable, outcome = .fail text recoverable ∧
      t.world.tally.answers = s.world.tally.answers) ∨
    ∃ trip ∈ trips, ∃ reply, trip.result = .ok reply ∧ outcome = reply.toOutcome ∧
      t = trip.after ∧ t.world.tally.answers = s.world.tally.answers + 1 := by
  induction h with
  | unreachable hensure => exact .inl ⟨_, _, rfl, answers_ensureLink hensure⟩
  | @ended _ s t trip _ hensure htrip hending =>
    obtain ⟨count, htally, -⟩ := hending.exists_lookUp
    have hbefore := answers_ensureLink hensure
    rcases hending.outcome_cases with
      ⟨text, recoverable, houtcome, e, hresult⟩ | ⟨reply, houtcome, hresult, ht⟩
    · refine .inl ⟨text, recoverable, houtcome, ?_⟩
      rw [htally, ← hbefore, ← htrip.answers_of_error hframe hresult]
      rfl
    · refine .inr ⟨trip, List.mem_singleton_self _, reply, hresult, houtcome, ht, ?_⟩
      rw [ht, htrip.tally_eq hframe, hresult, ← hbefore]
      rfl
  | @resent _ s t u trip _ _ hensure htrip hlost hrenews _ ih =>
    obtain ⟨e, hresult⟩ := hlost.exists_error
    obtain ⟨count, htally, -⟩ := hrenews.exists_lookUp
    have hbefore : u.world.tally.answers = s.world.tally.answers := by
      rw [htally, ← answers_ensureLink hensure, ← htrip.answers_of_error hframe hresult]
      rfl
    rw [hbefore] at ih
    rcases ih with hfailed | ⟨last, hmem, hanswered⟩
    · exact .inl hfailed
    · exact .inr ⟨last, List.mem_cons_of_mem _ hmem, hanswered⟩

end Answers

end Channel

namespace Scenario

open Channel

variable (sc : Scenario)

end Scenario

end CommandChannel
