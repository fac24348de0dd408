import CommandChannel.Proofs.Consistency

/-!
# Streams of frames

Every connection takes whole frames one after the other, and at the end a beginning of a frame at
most. A connection that took part of a frame, or a frame that it did not flush, is given up; so is
one that was offered the closing frame. The stream of the connection in use ends with a frame.
-/

namespace CommandChannel

open Relation

namespace Account

/-- The bytes that were taken are those of the attempts to write frames, and no attempt followed
one that left the stream within a frame or before a flush. -/
structure Orderly (P : List UInt8 → Prop) (account : Account) : Prop where
  /-- All bytes belong to an attempt, and these do not overlap. -/
  bytes_eq : account.bytes = account.attempts.reverse.flatMap Attempt.taken
  /-- Every attempt was one to write a frame that is allowed, and a beginning of it was taken. -/
  attempts : ∀ attempt ∈ account.attempts, P attempt.frame ∧ attempt.taken <+: attempt.frame
  /-- Only the last attempt may have left the stream within a frame or before a flush. -/
  clean_tail : ∀ attempt ∈ account.attempts.tail, attempt.Clean

/-- Every attempt to write a frame left the stream at the end of a frame. -/
def InStep (account : Account) : Prop := ∀ attempt ∈ account.attempts, attempt.Clean

section Orderly

variable {P : List UInt8 → Prop} {account : Account}

/-- Only what passed over a connection matters to its stream, and not whether it is still in use. -/
theorem Orderly.of_sameStream (h : account.Orderly P) {account' : Account}
    (hstream : account.SameStream account') : account'.Orderly P where
  bytes_eq := by rw [hstream.bytes_eq, hstream.attempts_eq, h.bytes_eq]
  attempts := by
    rw [hstream.attempts_eq]
    exact h.attempts
  clean_tail := by
    rw [hstream.attempts_eq]
    exact h.clean_tail

/-- A stream that is in step takes a beginning of one more frame. What it is in step with is every
frame before that one. -/
theorem Orderly.attempt (h : account.Orderly P) (hstep : account.InStep) (trade : Attempt)
    (hframe : P trade.frame) (htaken : trade.taken <+: trade.frame) (replies : List Response) :
    ({ account with
        attempts := trade :: account.attempts
        bytes := account.bytes ++ trade.taken
        replies := replies } : Account).Orderly P where
  bytes_eq := by simp [h.bytes_eq]
  attempts := by
    intro attempt hmem
    rcases List.mem_cons.1 hmem with rfl | hmem
    · exact ⟨hframe, htaken⟩
    · exact h.attempts attempt hmem
  clean_tail := hstep

/-- Attempts that left a stream at the end of a frame wrote whole frames, or nothing. -/
theorem flatMap_taken {attempts : List Attempt} (h : ∀ attempt ∈ attempts, attempt.Clean) :
    attempts.flatMap Attempt.taken =
      ((attempts.filter Attempt.isWhole).map Attempt.frame).flatten := by
  induction attempts with
  | nil => rfl
  | cons attempt attempts ih =>
    have hrest := ih fun other hmem => h other (List.mem_cons_of_mem _ hmem)
    rw [List.flatMap_cons, hrest]
    by_cases hwhole : attempt.isWhole = true
    · rw [List.filter_cons_of_pos hwhole, Attempt.isWhole_iff.1 hwhole]
      rfl
    · have hnothing : attempt.taken = [] := by
        rcases h attempt List.mem_cons_self with ⟨hnothing, -⟩ | ⟨hall, -⟩
        · exact hnothing
        · exact absurd (Attempt.isWhole_iff.2 hall) hwhole
      rw [List.filter_cons_of_neg hwhole, hnothing, List.nil_append]

/-- A stream that is in step consists of whole frames, one after the other. -/
theorem Orderly.bytes_eq_flatten (h : account.Orderly P) (hstep : account.InStep) :
    account.bytes = account.frames.flatten := by
  rw [h.bytes_eq, frames, flatMap_taken]
  intro attempt hmem
  exact hstep attempt (List.mem_reverse.1 hmem)

/-- A stream consists of whole frames and of a beginning of another one at most. The latter belongs
to the last attempt, as no attempt follows one that was cut short. -/
theorem Orderly.exists_bytes_eq (h : account.Orderly P) :
    ∃ rest, account.bytes = account.frames.flatten ++ rest ∧
      (rest = [] ∨ ∃ frame, P frame ∧ rest <+: frame ∧ rest ≠ frame) := by
  obtain ⟨opened, closed, attempts, bytes, replies⟩ := account
  have hbytes := h.bytes_eq
  cases attempts with
  | nil => exact ⟨[], by simpa [frames] using hbytes, .inl rfl⟩
  | cons attempt attempts =>
    obtain ⟨hframe, htaken⟩ := h.attempts attempt List.mem_cons_self
    have hclean : ∀ other ∈ attempts.reverse, other.Clean := by
      intro other hmem
      exact h.clean_tail other (List.mem_reverse.1 hmem)
    simp only [List.reverse_cons, List.flatMap_append, flatMap_taken hclean] at hbytes
    by_cases hwhole : attempt.taken = attempt.frame
    · refine ⟨[], ?_, .inl rfl⟩
      simp [hbytes, frames, List.filter_append, Attempt.isWhole, hwhole]
    · refine ⟨attempt.taken, ?_, .inr ⟨attempt.frame, hframe, htaken, hwhole⟩⟩
      simp [hbytes, frames, List.filter_append, Attempt.isWhole, hwhole]

/-- The whole frames of a stream are among those that were offered. -/
theorem Orderly.frames (h : account.Orderly P) : ∀ frame ∈ account.frames, P frame := by
  intro frame hmem
  obtain ⟨attempt, hattempt, rfl⟩ := List.mem_map.1 hmem
  exact (h.attempts attempt (List.mem_reverse.1 (List.mem_filter.1 hattempt).1)).1

end Orderly

end Account

namespace Channel

/-- The streams of all connections are in order, and that of the connection in use is in step and
known to the manager. -/
structure Framed (P : List UInt8 → Prop) (s : Channel) : Prop where
  accounts : ∀ c, (s.world.account c).Orderly P
  current : ∀ link, s.manager.link = some link → (s.world.account link.number).InStep ∧
    link.outbound.accepted = (s.world.account link.number).bytes

section Framed

variable {P : List UInt8 → Prop} {s t : Channel}

/-- Without a connection only the streams of earlier ones matter, and nothing need be in step. -/
theorem Framed.of_none (hlink : t.manager.link = none)
    (haccounts : ∀ c, (t.world.account c).Orderly P) : t.Framed P where
  accounts := haccounts
  current link h := by
    rw [hlink] at h
    cases h

/-- Nothing passed over a connection that was just opened, nor over any other meanwhile. -/
theorem Opens.framed {count : Nat} {link : Link} (h : s.Opens count link t)
    (hledger : s.world.Ledger none) (hs : ∀ c, (s.world.account c).Orderly P) : t.Framed P := by
  obtain ⟨u, -, hmakes⟩ := h.world
  refine ⟨fun c => (hs c).of_sameStream (h.sameStream c), ?_⟩
  intro other hother
  rw [h.link_eq] at hother
  rw [← Option.some_inj.1 hother, h.account_eq hledger]
  refine ⟨?_, hmakes.unused⟩
  intro attempt hmem
  cases hmem

/-- A round trip leaves the streams in order, also if its frame was cut short: it is the last one on
its connection then. -/
theorem Trades.orderly {link : Link} {trade : Attempt} {replies : List Response}
    {result : Except ChannelError Response} (h : s.Trades link trade replies result t)
    (hlink : s.manager.link = some link) (hframe : P trade.frame) (hs : s.Framed P) (c : Nat) :
    (t.world.account c).Orderly P := by
  rw [h.account_eq]
  by_cases hc : link.number = c
  · rw [if_pos hc, ← hc]
    exact (hs.accounts _).attempt (hs.current link hlink).1 trade hframe h.taken_prefix _
  · rw [if_neg hc]
    exact hs.accounts c

/-- A round trip that does not end in a failure other than a timeout leaves the stream at the end
of a frame. -/
theorem Trades.clean {link : Link} {trade : Attempt} {replies : List Response}
    {result : Except ChannelError Response} (h : s.Trades link trade replies result t)
    (hkeeps : ∀ e, result = .error e → e.isTimeout = true) : trade.Clean := by
  cases hconfirmed : trade.confirmed with
  | true => exact .inr ⟨(h.sent hconfirmed).1, hconfirmed⟩
  | false =>
    obtain ⟨-, -, e, hresult, -, htimeout⟩ := h.unsent hconfirmed
    exact .inl ⟨htimeout (hkeeps e hresult), hconfirmed⟩

/-- A round trip after which the connection is kept leaves its stream in step, so that the next
frame may follow. -/
theorem Trades.framed {link : Link} {trade : Attempt} {replies : List Response}
    {result : Except ChannelError Response} (h : s.Trades link trade replies result t)
    (hlink : s.manager.link = some link) (hframe : P trade.frame)
    (hkeeps : ∀ e, result = .error e → e.isTimeout = true) (hs : s.Framed P) : t.Framed P := by
  refine ⟨h.orderly hlink hframe hs, ?_⟩
  obtain ⟨link', hlink', hnumber, haccepted⟩ := h.exists_link
  obtain ⟨hstep, hknown⟩ := hs.current link hlink
  intro other hother
  rw [hlink'] at hother
  rw [← Option.some_inj.1 hother, hnumber, h.account_eq, if_pos rfl]
  refine ⟨?_, by rw [haccepted, hknown]⟩
  intro attempt hmem
  rcases List.mem_cons.1 hmem with rfl | hmem
  · exact h.clean hkeeps
  · exact hstep attempt hmem

/-- Ending the connection on request leaves the streams in order: the closing frame may be cut
short, but the connection is given up. -/
theorem Disconnects.framed (h : s.Disconnects t)
    (hclose : ∀ frame, Frame.encode (.command .close) = .ok frame → P frame) (hs : s.Framed P) :
    t.Framed P := by
  refine .of_none h.link_eq fun c => ?_
  rcases h.account_cases with hclosed | ⟨link, frame, taken, hlink, hencode, htaken, haccount⟩
  · rw [hclosed]
    exact (hs.accounts c).of_sameStream (s.sameStream_closeLink c)
  · rw [haccount]
    by_cases hc : link.number = c
    · rw [if_pos hc, ← hc]
      exact ((hs.accounts _).attempt (hs.current link hlink).1 ⟨frame, taken, false⟩
        (hclose frame hencode) htaken _).of_sameStream ⟨rfl, rfl, rfl⟩
    · rw [if_neg hc]
      exact hs.accounts c

/-- Every step leaves the streams in order. There is one case for each kind of step. -/
theorem Step.framed (h : s.Step P t) (hledger : s.world.Ledger s.conn) (hs : s.Framed P) :
    t.Framed P := by
  have hclosed (c : Nat) : (s.closeLink.world.account c).Orderly P :=
    (hs.accounts c).of_sameStream (s.sameStream_closeLink c)
  cases h with
  | quiet hmanager hworld =>
    obtain ⟨_, hmanager⟩ := hmanager
    refine ⟨fun c => (hs.accounts c).of_sameStream (hworld.sameStream c), ?_⟩
    intro link hlink
    rw [hmanager] at hlink
    rw [hworld.account_eq]
    exact hs.current link hlink
  | opens _ hopens => exact hopens.framed (ledger_closeLink hledger) hclosed
  | failsToConnect _ hfails =>
    exact .of_none hfails.link_eq fun c => (hclosed c).of_sameStream (hfails.world.sameStream c)
  | givesUp _ hgives =>
    exact .of_none (hgives.link_eq.trans s.link_closeLink) fun c =>
      (hclosed c).of_sameStream (hgives.world.sameStream c)
  | trades _ hlink hframe htrades hkeeps => exact htrades.framed hlink hframe hkeeps hs
  | @breaks _ _ _ _ u _ hlink hframe htrades hfails =>
    refine .of_none hfails.link_eq fun c => ?_
    exact (htrades.orderly hlink hframe hs c).of_sameStream
      ((u.sameStream_closeLink c).trans (hfails.world.sameStream c))
  | disconnects hclose hdisconnects => exact hdisconnects.framed hclose hs

/-- Streams stay in order, whatever is reached. The induction carries the agreement with the
connections along. -/
theorem Reaches.framed (h : Reaches P s t) (hconsistent : s.Consistent) (hs : s.Framed P) :
    t.Framed P := by
  -- The streams stay in order because a new connection was never used before.
  refine (h.keeps (I := fun u => u.Consistent ∧ u.Framed P) ?_ ⟨hconsistent, hs⟩).2
  rintro u v hstep ⟨hu, hframed⟩
  exact ⟨hstep.consistent hu, hstep.framed hu.ledger hframed⟩

/-- The connection was made, and is not the one in use. -/
def Abandoned (s : Channel) (c : Nat) : Prop := c < s.world.made ∧ s.conn ≠ some c

/-- Giving the connection in use up concerns no other one, so that their accounts stay as they
are. -/
theorem account_closeLink_of_ne {c : Nat} (h : s.conn ≠ some c) :
    s.closeLink.world.account c = s.world.account c := by
  cases hlink : s.manager.link with
  | none => rw [closeLink_of_none hlink]
  | some link =>
    rw [account_closeLink hlink, if_neg]
    intro hc
    exact h (by rw [conn_eq hlink, hc])

/-- Attempts to connect that fail concern no connection that was made before. -/
theorem abandoned_seeks {w : World} {count c : Nat} (hseeks : s.closeLink.world.Seeks count w)
    (hc : s.Abandoned c) : c < w.made ∧ w.account c = s.world.account c := by
  obtain ⟨hmade, hother⟩ := hc
  have hle := hseeks.made_le
  rw [made_closeLink] at hle
  refine ⟨by omega, ?_⟩
  rw [hseeks.account_eq, made_closeLink, if_neg (by omega), account_closeLink_of_ne hother]

/-- A round trip concerns no connection but the one in use. -/
theorem Trades.abandoned {link : Link} {trade : Attempt} {replies : List Response}
    {result : Except ChannelError Response} (h : s.Trades link trade replies result t)
    (hlink : s.manager.link = some link) {c : Nat} (hc : s.Abandoned c) :
    t.Abandoned c ∧ t.world.account c = s.world.account c := by
  obtain ⟨link', hlink', hnumber, -⟩ := h.exists_link
  have hconn : t.conn = s.conn := by rw [conn_eq hlink, conn_eq hlink', hnumber]
  have hne : link.number ≠ c := by
    intro heq
    exact hc.2 (by rw [conn_eq hlink, heq])
  exact ⟨⟨h.made_eq ▸ hc.1, hconn ▸ hc.2⟩, by rw [h.account_eq, if_neg hne]⟩

/-- A connection that was given up is never used again, whatever step is made. -/
theorem Step.abandoned (h : s.Step P t) {c : Nat} (hc : s.Abandoned c) :
    t.Abandoned c ∧ t.world.account c = s.world.account c := by
  have hmade := hc.1
  cases h with
  | quiet hmanager hworld =>
    obtain ⟨_, hmanager⟩ := hmanager
    have hconn : t.conn = s.conn := by rw [conn, hmanager]; rfl
    exact ⟨⟨hworld.made_eq ▸ hmade, hconn ▸ hc.2⟩, hworld.account_eq c⟩
  | @opens _ link _ hopens =>
    obtain ⟨u, hseeks, hmakes⟩ := hopens.world
    obtain ⟨hlt, haccount⟩ := abandoned_seeks hseeks hc
    have hnumber := hmakes.number_eq
    refine ⟨⟨by rw [hmakes.made_eq]; omega, ?_⟩, ?_⟩
    · rw [conn_eq hopens.link_eq]
      intro heq
      have := Option.some_inj.1 heq
      omega
    · rw [hmakes.account_eq, if_neg (by omega), haccount]
  | failsToConnect _ hfails =>
    obtain ⟨hlt, haccount⟩ := abandoned_seeks hfails.world hc
    exact ⟨⟨hlt, by simp [conn_eq_none hfails.link_eq]⟩, haccount⟩
  | givesUp _ hgives =>
    obtain ⟨hlt, haccount⟩ := abandoned_seeks hgives.world hc
    exact ⟨⟨hlt, by simp [conn_eq_none (hgives.link_eq.trans s.link_closeLink)]⟩, haccount⟩
  | trades _ hlink _ htrades _ => exact htrades.abandoned hlink hc
  | breaks _ hlink _ htrades hfails =>
    obtain ⟨hu, haccount⟩ := htrades.abandoned hlink hc
    refine ⟨⟨?_, by simp [conn_eq_none hfails.link_eq]⟩, ?_⟩
    · rw [hfails.world.made_eq, made_closeLink]
      exact hu.1
    · rw [hfails.world.account_eq, account_closeLink_of_ne hu.2, haccount]
  | disconnects _ hdisconnects =>
    refine ⟨⟨hdisconnects.made_eq ▸ hmade, by simp [conn_eq_none hdisconnects.link_eq]⟩, ?_⟩
    rcases hdisconnects.account_cases with hclosed | ⟨link, frame, taken, hlink, -, -, haccount⟩
    · rw [hclosed, account_closeLink_of_ne hc.2]
    · rw [haccount, if_neg]
      intro heq
      exact hc.2 (by rw [conn_eq hlink, heq])

/-- A connection that was given up is never used again, whatever is reached. -/
theorem Reaches.abandoned (h : Reaches P s t) {c : Nat} (hc : s.Abandoned c) :
    t.Abandoned c ∧ t.world.account c = s.world.account c := by
  refine h.keeps (I := fun u => u.Abandoned c ∧ u.world.account c = s.world.account c) ?_ ⟨hc, rfl⟩
  rintro u v hstep ⟨hu, haccount⟩
  obtain ⟨hv, haccount'⟩ := hstep.abandoned hu
  exact ⟨hv, haccount'.trans haccount⟩

end Framed

end Channel

namespace Scenario

open Channel

variable (sc : Scenario)

/-- At the beginning nothing was taken by any connection, and nothing that was taken can be out of
order. -/
theorem framed_start (P : List UInt8 → Prop) : sc.start.Framed P := by
  refine .of_none rfl fun c => ?_
  exact ⟨rfl, by simp [start, world, Channel.start, World.account],
    by simp [start, world, Channel.start, World.account]⟩

/-- Between operations all streams are in order, and consist of frames of the commands so far. -/
theorem framed_after (operations : List Operation) :
    (sc.after operations).Framed (IsFrameOf operations) :=
  (sc.reaches_after operations).framed sc.consistent_start (sc.framed_start _)

/-- Nothing happens any more to a connection that was given up, however the run goes on. -/
theorem account_after_append (operations more : List Operation) {c : Nat}
    (hc : (sc.after operations).Abandoned c) :
    (sc.after (operations ++ more)).world.account c = (sc.after operations).world.account c := by
  have hreaches :
      Reaches (fun _ => True) (sc.after operations) (sc.after (operations ++ more)) := by
    rw [after_append]
    exact Reaches.run (sc.linked_after operations) fun _ _ => trivial
  exact (hreaches.abandoned hc).2

/-- A connection that was offered a frame and is not in step was given up. For the one in use always
is in step. -/
theorem abandoned_of_not_clean {operations : List Operation} {c : Nat} {attempt : Attempt}
    (hmem : attempt ∈ ((sc.after operations).world.account c).attempts)
    (hattempt : ¬ attempt.Clean) : (sc.after operations).Abandoned c := by
  have hledger := (sc.consistent_after operations).ledger
  constructor
  · by_cases hmade : c < (sc.after operations).world.made
    · exact hmade
    · rw [hledger.unmade c (by omega)] at hmem
      cases hmem
  · intro hconn
    obtain ⟨link, hlink, rfl⟩ := Option.map_eq_some_iff.1 hconn
    exact hattempt (((sc.framed_after operations).current link hlink).1 attempt hmem)

/-- A connection that was made before the manager was asked to end it was given up, whatever the
manager was doing with it. -/
theorem abandoned_after_disconnect {before : List Operation} {c : Nat}
    (hmade : c < (sc.after before).world.made) :
    (sc.after (before ++ [.disconnect])).Abandoned c := by
  rw [after_append]
  have hdisconnects := (sc.after before).disconnects_disconnect
  refine ⟨hdisconnects.made_eq ▸ hmade, ?_⟩
  have hconn : ((sc.after before).run [.disconnect]).conn = none :=
    conn_eq_none hdisconnects.link_eq
  simp [hconn]

/-- Every connection takes whole frames of commands, followed by a beginning of one more frame at
most. No attempt follows one that was cut short or not flushed, neither in this run nor when it
goes on; nor is anything taken after the connection was ended on request. While the manager is
connected, its connection took whole frames alone. -/
theorem framing_after (operations : List Operation) (c : Nat) :
    let account := (sc.after operations).world.account c
    (∃ rest, account.bytes = account.frames.flatten ++ rest ∧
      (∀ frame ∈ account.frames, IsFrameOf operations frame) ∧
      (rest = [] ∨ ∃ frame, IsFrameOf operations frame ∧ rest <+: frame ∧ rest ≠ frame)) ∧
    account.bytes = account.attempts.reverse.flatMap Attempt.taken ∧
    (∀ later attempt earlier, account.attempts = later ++ attempt :: earlier →
      attempt.taken ≠ [] → attempt.confirmed = false →
        later = [] ∧ ∀ more, (sc.after (operations ++ more)).world.account c = account) ∧
    (∀ before more, operations = before ++ .disconnect :: more →
      c < (sc.after before).world.made →
        account = (sc.after (before ++ [.disconnect])).world.account c) ∧
    ((sc.after operations).manager.state = .connected →
      ∃ link, (sc.after operations).manager.link = some link ∧
        (link.number = c → link.outbound.accepted = account.bytes ∧
          account.bytes = account.frames.flatten)) := by
  intro account
  have hframed := sc.framed_after operations
  have horderly : account.Orderly (IsFrameOf operations) := hframed.accounts c
  refine ⟨?_, horderly.bytes_eq, ?_, ?_, ?_⟩
  · obtain ⟨rest, hbytes, hrest⟩ := horderly.exists_bytes_eq
    exact ⟨rest, hbytes, horderly.frames, hrest⟩
  · intro later attempt earlier hattempts htaken hconfirmed
    have hunclean : ¬ attempt.Clean := by
      rintro (⟨hnothing, -⟩ | ⟨-, hsent⟩)
      · exact htaken hnothing
      · rw [hconfirmed] at hsent
        cases hsent
    have hmem : attempt ∈ account.attempts := by simp [hattempts]
    refine ⟨?_, fun more => ?_⟩
    · cases later with
      | nil => rfl
      | cons latest later =>
        refine absurd (horderly.clean_tail attempt ?_) hunclean
        simp [hattempts]
    · exact sc.account_after_append operations more (sc.abandoned_of_not_clean hmem hunclean)
  · intro before more hoperations hmade
    have hsplit : operations = (before ++ [.disconnect]) ++ more := by simp [hoperations]
    have hafter := sc.account_after_append (before ++ [.disconnect]) more
      (sc.abandoned_after_disconnect hmade)
    rwa [← hsplit] at hafter
  · intro hstate
    obtain ⟨link, hlink⟩ := sc.linked_after operations hstate
    refine ⟨link, hlink, ?_⟩
    rintro rfl
    obtain ⟨hstep, hknown⟩ := hframed.current link hlink
    exact ⟨hknown, horderly.bytes_eq_flatten hstep⟩

end Scenario

end CommandChannel
