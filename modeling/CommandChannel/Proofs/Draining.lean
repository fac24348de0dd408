import Mathlib.Data.Nat.PSub
import CommandChannel.Proofs.Moves
import CommandChannel.Proofs.Streams
import CommandChannel.Proofs.Waiting

/-!
# Replies that are owed

The loop that waits for a reply goes on as long as replies are owed, and every reply that is read
takes the count down by one. So as many frames are read as the count says, unless one cannot be read
before, and the count tells then how many are still to come. The stream may hold anything: nothing
but the number of the frame decides which one is the answer.
-/

namespace CommandChannel

namespace Frame

variable {α : Type} {report : ReadReport} {format : Format α}

/-- Frames are read one after the other until there are so many or one of them cannot be read. -/
inductive Collects (report : ReadReport) (format : Format α) :
    Nat → Inbound → List (α × Nat) → Option ChannelError → Inbound → Prop where
  /-- As many frames as were asked for have been read. -/
  | complete (s : Inbound) : Collects report format 0 s [] none s
  /-- The next frame cannot be read, and no other is tried after it. -/
  | failed {count : Nat} {s t : Inbound} {e : ChannelError}
      (hread : read report format s = (.error e, t)) :
      Collects report format (count + 1) s [] (some e) t
  /-- A frame is read, and others follow. -/
  | frame {count : Nat} {s t u : Inbound} {r : α × Nat} {rs : List (α × Nat)}
      {stop : Option ChannelError} (hread : read report format s = (.ok r, t))
      (hrest : Collects report format count t rs stop u) :
      Collects report format (count + 1) s (r :: rs) stop u

section Collects

variable {count : Nat} {s t : Inbound} {rs : List (α × Nat)} {stop : Option ChannelError}

/-- Frames that are collected were read in a row, and perhaps one more in vain. So nothing is
skipped between them. -/
theorem Collects.readMany_eq (h : Collects report format count s rs stop t) :
    readMany report format (rs.length + stop.toList.length) s =
      (rs.map .ok ++ stop.toList.map .error, t) := by
  induction h with
  | complete s => rfl
  | failed hread =>
    change readMany report format 1 _ = _
    rw [readMany, hread]
    rfl
  | @frame count s t u r rs stop hread _ ih =>
    rw [List.length_cons, Nat.add_right_comm, readMany, hread]
    dsimp only
    rw [ih]
    rfl

/-- No more reads are made than were asked for, the one in vain included. -/
theorem Collects.length_add_le (h : Collects report format count s rs stop t) :
    rs.length + stop.toList.length ≤ count := by
  induction h with
  | complete => exact Nat.le_refl _
  | failed => exact Nat.succ_le_succ (Nat.zero_le _)
  | frame _ _ ih =>
    rw [List.length_cons]
    omega

/-- If nothing stops the collection, there are as many frames as were asked for. -/
theorem Collects.length_eq (h : Collects report format count s rs none t) : rs.length = count := by
  generalize hstop : (none : Option ChannelError) = stop at h
  induction h with
  | complete => rfl
  | failed => cases hstop
  | frame _ _ ih => rw [List.length_cons, ih hstop]

/-- Nothing stops the collection exactly if all frames can be read. -/
theorem Collects.eq_none_iff (h : Collects report format count s rs stop t) :
    stop = none ↔ ∀ r ∈ (readMany report format count s).1, ∃ v, r = .ok v := by
  induction h with
  | complete => simp [readMany]
  | @failed count s t e hread =>
    rw [readMany, hread]
    simp
  | @frame count s t u r rs stop hread _ ih =>
    rw [readMany, hread, ih]
    exact ⟨fun h => List.forall_mem_cons.2 ⟨⟨r, rfl⟩, h⟩, fun h => (List.forall_mem_cons.1 h).2⟩

end Collects

end Frame

/-- Reading from a connection is reading from its stream at the present moment. What is left of the
stream stays with the connection, and its time becomes that of the world. -/
theorem Link.read_of_frame {α : Type} {format : Frame.Format α} {link : Link} {w : World}
    {result : Except ChannelError (α × Nat)} {inbound : Inbound}
    (h : Frame.read .blocking format { link.inbound with now := w.now } = (result, inbound)) :
    link.read format w =
      (result, { link with inbound := inbound }, { w with now := inbound.now }) := by
  rw [read, h]

namespace Channel

/-- The channel after a read from its connection, whatever was read. -/
def readOn (link : Link) (inbound : Inbound) (s : Channel) : Channel where
  manager := { s.manager with link := some { link with inbound := inbound } }
  world := { s.world with now := inbound.now }

/-- The channel after a reply was read from its connection. -/
def receive (link : Link) (reply : Response × Nat) (inbound : Inbound) (s : Channel) : Channel :=
  ((s.readOn link inbound).record (.received link.number reply.1 reply.2)).count
    (Stats.recordReceive reply.2)

section Replies

variable {s t : Channel} {link : Link} {inbound : Inbound} {reply : Response × Nat}
  {replies : List (Response × Nat)} {stop : Option ChannelError} {after : Inbound}
  {result : Except ChannelError Response} {late : Nat}

/-- A reply that cannot be read changes the stream and the time, and nothing that is counted. -/
theorem readReply_of_error {e : ChannelError} (hlink : s.manager.link = some link)
    (hread : Frame.read .blocking Response.ofBytes { link.inbound with now := s.now } =
      (.error e, inbound)) :
    s.readReply = (.error e, s.readOn link inbound) := by
  unfold readReply
  rw [hlink]
  dsimp only
  rw [Link.read_of_frame hread]
  rfl

/-- A reply that is read is noted in the history and counted with its size. -/
theorem readReply_of_ok (hlink : s.manager.link = some link)
    (hread : Frame.read .blocking Response.ofBytes { link.inbound with now := s.now } =
      (.ok reply, inbound)) :
    s.readReply = (.ok reply.1, s.receive link reply inbound) := by
  unfold readReply
  rw [hlink]
  dsimp only
  rw [Link.read_of_frame hread]
  rfl

/-- The replies that are owed were read up to one that could not be, or to the last of them. -/
structure Settles (link : Link) (replies : List (Response × Nat)) (stop : Option ChannelError)
    (after : Inbound) (result : Except ChannelError Response) (s t : Channel) : Prop where
  /-- Of the connection only what is still to be read from it changed. -/
  link_eq : t.manager.link = some { link with inbound := after }
  /-- Every reply that was read is owed no longer. -/
  owed_add : t.manager.owedReplies + replies.length = s.manager.owedReplies
  /-- Late replies are counted as the answer is. -/
  replies_eq : t.manager.stats.replies = s.manager.stats.replies + replies.length
  /-- Reading sends nothing. -/
  sent_eq : t.manager.stats.sent = s.manager.stats.sent
  /-- A reply that cannot be read ends the round trip. -/
  failed : ∀ e, stop = some e → result = .error e
  /-- Without such a reply the last one is the answer. -/
  answered : stop = none → ∃ last, replies.getLast? = some last ∧ result = .ok last.1

/-- Nothing is settled by a reply that cannot be read: all that was owed is owed still. -/
theorem Settles.broken (s : Channel) (link : Link) (e : ChannelError) (inbound : Inbound) :
    s.Settles link [] (some e) inbound (.error e) (s.readOn link inbound) where
  link_eq := rfl
  owed_add := rfl
  replies_eq := rfl
  sent_eq := rfl
  failed := by
    rintro _ ⟨⟩
    rfl
  answered := nofun

/-- The only reply that is owed settles all, and is the answer. -/
theorem Settles.last (howed : s.manager.owedReplies = 1) (link : Link) (reply : Response × Nat)
    (inbound : Inbound) :
    s.Settles link [reply] none inbound (.ok reply.1)
      (((s.receive link reply inbound).owe 0).touch.record .answered) where
  link_eq := rfl
  owed_add := howed.symm
  replies_eq := rfl
  sent_eq := rfl
  failed := nofun
  answered _ := ⟨reply, rfl, rfl⟩

/-- A late reply leaves the others to be settled. It is one of those that were owed, and the last of
them is the answer as before. -/
theorem Settles.passOver (howed : s.manager.owedReplies = late + 1)
    (h : (((s.receive link reply inbound).owe late).tell (.lateReply late)).Settles
      { link with inbound := inbound } replies stop after result t) :
    s.Settles link (reply :: replies) stop after result t where
  link_eq := h.link_eq
  owed_add := by
    have hrest : t.manager.owedReplies + replies.length = late := h.owed_add
    rw [howed, List.length_cons, ← hrest]
    rfl
  replies_eq := by
    have hrest : _ = s.manager.stats.replies + 1 + replies.length := h.replies_eq
    rw [hrest, List.length_cons]
    omega
  sent_eq := h.sent_eq
  failed := h.failed
  answered hstop := by
    obtain ⟨last, hlast, hresult⟩ := h.answered hstop
    exact ⟨last, by rw [List.getLast?_cons, hlast]; rfl, hresult⟩

/-- Waiting for a reply collects the frames of all replies that are owed. The induction is on the
number of late ones, each round of the loop taking off one. -/
theorem exists_collects_of_awaitReply (late : Nat) (hlink : s.manager.link = some link)
    (howed : s.manager.owedReplies = late + 1) :
    ∃ replies stop after,
      Frame.Collects .blocking Response.ofBytes (late + 1) { link.inbound with now := s.now }
        replies stop after ∧
      s.Settles link replies stop after (awaitReply late s).1 (awaitReply late s).2 := by
  induction late generalizing s link with
  | zero =>
    unfold awaitReply
    rcases hread : Frame.read .blocking Response.ofBytes { link.inbound with now := s.now } with
      ⟨e | reply, inbound⟩
    · rw [readReply_of_error hlink hread]
      exact ⟨[], some e, inbound, .failed hread, .broken s link e inbound⟩
    · rw [readReply_of_ok hlink hread]
      exact ⟨[reply], none, inbound, .frame hread (.complete inbound),
        .last howed link reply inbound⟩
  | succ late ih =>
    unfold awaitReply
    rcases hread : Frame.read .blocking Response.ofBytes { link.inbound with now := s.now } with
      ⟨e | reply, inbound⟩
    · rw [readReply_of_error hlink hread]
      exact ⟨[], some e, inbound, .failed hread, .broken s link e inbound⟩
    · rw [readReply_of_ok hlink hread]
      -- the channel in which the next round begins
      let next := ((s.receive link reply inbound).owe (late + 1)).tell (.lateReply (late + 1))
      obtain ⟨replies, stop, after, hcollects, hsettles⟩ := ih (s := next) rfl rfl
      exact ⟨reply :: replies, stop, after, .frame hread hcollects, hsettles.passOver howed⟩

end Replies

/-! ## The loop -/

/-- The loop that waits for a reply, cut short after so many rounds. The count of the replies that
are owed is taken down in each of them, as long as that can be done. -/
def receiveOwed (decrement : Nat → Option Nat) :
    Nat → Channel → Option (Except ChannelError Response × Channel)
  | 0, _ => none
  | rounds + 1, s =>
    match s.readReply with
    | (.error e, s) => some (.error e, s)
    | (.ok reply, s) =>
      match decrement s.manager.owedReplies with
      | none => none
      | some 0 => some (.ok reply, (s.owe 0).touch.record .answered)
      | some (late + 1) =>
        receiveOwed decrement rounds ((s.owe (late + 1)).tell (.lateReply (late + 1)))

/-- Reading a reply does not change the number of those that are owed; it is the loop that does. -/
theorem owedReplies_readReply (s : Channel) :
    s.readReply.2.manager.owedReplies = s.manager.owedReplies := by
  obtain ⟨_, _, hmanager⟩ := s.manager_readReply
  rw [hmanager]

/-- The loop makes a round for each reply that is owed at most, and never takes the count below
zero. So it does not matter what taking one off zero would come to. -/
theorem receiveOwed_eq {decrement : Nat → Option Nat} (h : ∀ owed, decrement (owed + 1) = some owed)
    (late : Nat) {s : Channel} (howed : s.manager.owedReplies = late + 1) :
    receiveOwed decrement (late + 1) s = some (awaitReply late s) := by
  induction late generalizing s with
  | zero =>
    have hsame := s.owedReplies_readReply.trans howed
    unfold receiveOwed awaitReply
    generalize s.readReply = read at hsame ⊢
    obtain ⟨e | reply, t⟩ := read
    · rfl
    · dsimp only at hsame ⊢
      rw [hsame, h]
      rfl
  | succ late ih =>
    have hsame := s.owedReplies_readReply.trans howed
    unfold receiveOwed awaitReply
    generalize s.readReply = read at hsame ⊢
    obtain ⟨e | reply, t⟩ := read
    · rfl
    · dsimp only at hsame ⊢
      rw [hsame, h]
      exact ih rfl

/-- Sending a frame leaves alone what can be read. A frame that leaves is counted, and one more
reply is owed for it; one that does not leave changes nothing that is counted. -/
theorem manager_sendFrame_eq {s : Channel} {link : Link} (hlink : s.manager.link = some link)
    (frame : List UInt8) :
    ∃ link', link'.inbound = link.inbound ∧
      (s.sendFrame frame).2.manager =
        match (s.sendFrame frame).1 with
        | .error _ => { s.manager with link := some link' }
        | .ok () =>
          { s.manager with
            link := some link', owedReplies := s.manager.owedReplies + 1
            stats := s.manager.stats.recordSend frame.length } := by
  have hsame := link.inbound_writeEncoded frame s.world
  unfold sendFrame
  rw [hlink]
  dsimp only
  rcases hwrite : link.writeEncoded frame s.world with ⟨e | _, link', w⟩ <;> rw [hwrite] at hsame
  · exact ⟨link', hsame, rfl⟩
  · exact ⟨link', hsame, rfl⟩


/-- A round trip over a connection, on which so many replies may be owed already. Where the frame
does not leave nothing is read or counted. Where it does, frames are read in a row, one for each
reply that is owed and one for the frame at most, until one cannot be read; what is still owed and
the replies received tell how many could. The round trip succeeds exactly if all these frames are
replies, and then with the last of them. The loop ends within as many rounds, and it would go the
same way if the count of replies could not be taken down from zero. -/
theorem roundTrip_reads_owed_frames {s : Channel} {link : Link} (hlink : s.manager.link = some link)
    (frame : List UInt8) :
    let owed := s.manager.owedReplies
    (∀ e t, s.sendFrame frame = (.error e, t) →
      s.roundTrip frame = (.error e, t) ∧
      t.manager.owedReplies = owed ∧ t.manager.stats = s.manager.stats ∧
      ∃ link', t.manager.link = some link' ∧ link'.inbound = link.inbound) ∧
    ∀ t, s.sendFrame frame = (.ok (), t) →
      t.manager.owedReplies = owed + 1 ∧
      t.manager.stats = s.manager.stats.recordSend frame.length ∧
      ∃ result u, s.roundTrip frame = (result, u) ∧
        receiveOwed (fun count => some (count - 1)) (owed + 1) t = some (result, u) ∧
        receiveOwed Nat.ppred (owed + 1) t = some (result, u) ∧
        u.manager.stats.sent = s.manager.stats.sent + 1 ∧
        let stream : Inbound := { link.inbound with now := t.now }
        ((∃ reply, result = .ok reply) ↔
          ∀ r ∈ (Frame.readMany .blocking Response.ofBytes (owed + 1) stream).1,
            ∃ reply, r = .ok reply) ∧
        ∃ (replies : List (Response × Nat)) (stop : Option ChannelError) (after : Inbound),
          Frame.readMany .blocking Response.ofBytes (replies.length + stop.toList.length) stream =
            (replies.map .ok ++ stop.toList.map .error, after) ∧
          replies.length + stop.toList.length ≤ owed + 1 ∧
          (∃ link', u.manager.link = some link' ∧ link'.inbound = after) ∧
          u.manager.owedReplies + replies.length = owed + 1 ∧
          u.manager.stats.replies = s.manager.stats.replies + replies.length ∧
          (∀ e, stop = some e → result = .error e) ∧
          (stop = none → u.manager.owedReplies = 0 ∧
            ∃ last, replies[owed]? = some last ∧ result = .ok last.1) := by
  intro owed
  obtain ⟨link', hsame, hmanager⟩ := manager_sendFrame_eq hlink frame
  refine ⟨fun e t hsend => ?_, fun t hsend => ?_⟩ <;> rw [hsend] at hmanager <;>
    dsimp only at hmanager
  · rw [hmanager]
    exact ⟨by rw [roundTrip, hsend], rfl, rfl, link', rfl, hsame⟩
  · have howed : t.manager.owedReplies = owed + 1 := by rw [hmanager]
    have hstats : t.manager.stats = s.manager.stats.recordSend frame.length := by rw [hmanager]
    have htrip : s.roundTrip frame = awaitReply owed t := by
      rw [roundTrip, hsend]
      dsimp only
      rw [howed, Nat.add_sub_cancel]
    obtain ⟨replies, stop, after, hcollects, hsettles⟩ :=
      exists_collects_of_awaitReply owed (by rw [hmanager]) howed
    rw [hsame] at hcollects
    have hlength := hcollects.length_add_le
    have hadd := hsettles.owed_add
    rw [howed] at hadd
    have hgrown := hsettles.replies_eq
    rw [hstats] at hgrown
    have hsent := hsettles.sent_eq
    rw [hstats] at hsent
    refine ⟨howed, hstats, _, _, htrip, receiveOwed_eq (fun _ => rfl) owed howed,
      receiveOwed_eq (fun _ => rfl) owed howed, hsent, ?_, replies, stop, after,
      hcollects.readMany_eq, hlength, ⟨_, hsettles.link_eq, rfl⟩, hadd, hgrown, hsettles.failed,
      fun hstop => ?_⟩
    · rw [← hcollects.eq_none_iff]
      cases stop with
      | none =>
        obtain ⟨last, -, hresult⟩ := hsettles.answered rfl
        exact iff_of_true ⟨last.1, hresult⟩ rfl
      | some e =>
        rw [hsettles.failed e rfl]
        exact iff_of_false nofun nofun
    · subst hstop
      obtain ⟨last, hlast, hresult⟩ := hsettles.answered rfl
      have hall := hcollects.length_eq
      refine ⟨by omega, last, ?_, hresult⟩
      rwa [List.getLast?_eq_getElem?, hall] at hlast

/-- The case of a reply that is late. One reply is owed when the frame is sent, and both come in two
pieces that cut the frames; the round trip reads both, and the second one is its answer. -/
theorem roundTrip_reads_owed_frames_late :
    let link : Link := {
      number := 0
      inbound := {
        events := [.data .zero [0, 0, 0, 2, 0x7b], .data .zero [0x7d, 0, 0, 0, 2, 0x7b, 0x7d]]
        capacity := 16 }
      outbound := {}
      faults := {}
      peerAddr := .v4 .loopback 1
      localAddr := .v4 .loopback 2 }
    let s : Channel := ⟨{ config := {}, link := some link, owedReplies := 1 }, {}⟩
    s.manager.link = some link ∧
      ∃ reply u, s.roundTrip [1] = (.ok reply, u) ∧ u.manager.owedReplies = 0 ∧
        u.manager.stats.replies = 2 := by
  intro link s
  refine ⟨rfl, ?_⟩
  have hleaves : (s.sendFrame [1]).1.isOk = true := by decide +kernel
  obtain ⟨t, hsend⟩ : ∃ t, s.sendFrame [1] = (.ok (), t) := by
    rcases hsend : s.sendFrame [1] with ⟨e | _, t⟩
    · rw [hsend] at hleaves
      cases hleaves
    · exact ⟨t, rfl⟩
  have hlink : s.manager.link = some link := rfl
  obtain ⟨-, -, result, u, htrip, -, -, -, hall, replies, stop, after, -, -, -, howed, hreplies,
    hfailed, hanswered⟩ := (roundTrip_reads_owed_frames hlink [1]).2 t hsend
  have hstream : Inbound.Delivers { link.inbound with now := t.now }
      ([[0x7b, 0x7d], [0x7b, 0x7d]].flatMap Frame.ofBody ++ []) := by
    refine ⟨rfl, rfl, ?_, rfl⟩
    simp only [link, List.forall_mem_cons, ReadEvent.Arrives]
    refine ⟨⟨by decide, ?_⟩, ⟨by decide, ?_⟩, List.forall_mem_nil _⟩ <;> rintro _ ⟨⟩
  obtain ⟨_, hmany, -⟩ := Frame.readMany_of_delivers .blocking Response.ofBytes (by decide) hstream
  have hframes : ∀ r ∈ [[0x7b, 0x7d], [0x7b, 0x7d]].map (Frame.reported Response.ofBytes),
      ∃ reply, r = .ok reply :=
    List.forall_mem_cons.2 ⟨⟨_, rfl⟩, List.forall_mem_singleton.2 ⟨_, rfl⟩⟩
  obtain ⟨reply, hreply⟩ : ∃ reply, result = .ok reply :=
    hall.2 fun r hr => hframes r ((congrArg (fun read => r ∈ read.1) hmany).mp hr)
  have hstop : stop = none := by
    cases stop with
    | none => rfl
    | some e => cases hreply.symm.trans (hfailed e rfl)
  have hzero := (hanswered hstop).1
  refine ⟨reply, u, hreply ▸ htrip, hzero, ?_⟩
  have hbefore : s.manager.owedReplies = 1 ∧ s.manager.stats.replies = 0 := ⟨rfl, rfl⟩
  omega

end Channel

end CommandChannel
