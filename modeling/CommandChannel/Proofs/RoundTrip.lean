import CommandChannel.Channel.Execute
import CommandChannel.Proofs.Opening
import CommandChannel.Proofs.Writing

/-!
# Round trips

A round trip offers one frame to the connection and, once the frame has left, reads the replies
that are owed, the last of which is its own. What it changes is told by the attempt to write the
frame and the replies that were read.
-/

namespace CommandChannel

/-- Reading from a connection leaves all but the stream of bytes to read and the moment. -/
theorem Link.read_eq {α : Type} (format : Frame.Format α) (link : Link) (w : World) :
    ∃ result inbound now, link.read format w =
      (result, { link with inbound := inbound }, { w with now := now }) := by
  unfold Link.read
  exact ⟨_, _, _, rfl⟩

/-- The tally after the replies to a command were read: it was answered, or it was not. -/
def Tally.conclude (tally : Tally) : Except ChannelError Response → Tally
  | .ok _ => tally.answer
  | .error _ => tally

/-- Whether a command is answered does not change the lookups, which are made before its round
trip. -/
@[simp] theorem Tally.lookups_conclude (tally : Tally) (result : Except ChannelError Response) :
    (tally.conclude result).lookups = tally.lookups := by
  cases result <;> rfl

/-- Whether a command is answered does not change the offers, of which its frame is one. -/
@[simp] theorem Tally.offers_conclude (tally : Tally) (result : Except ChannelError Response) :
    (tally.conclude result).offers = tally.offers := by
  cases result <;> rfl

namespace Channel

/-- Replies were read from a connection between two channels, the latest first, and the reading
ended as told. The replies read and those still owed add up, and an answer is the last reply that
was owed. -/
structure Receives (link : Link) (replies : List Response) (result : Except ChannelError Response)
    (s t : Channel) : Prop where
  /-- The manager keeps its connection and its state. -/
  manager_eq : ∃ inbound owed stats activity, t.manager =
    { s.manager with
      link := some { link with inbound := inbound }, owedReplies := owed, stats := stats,
      lastActivity := activity }
  /-- No connection is made. -/
  made_eq : t.world.made = s.world.made
  /-- Replies are added to the account of this connection only. -/
  account_eq : ∀ c, t.world.account c =
    if link.number = c then
      { s.world.account c with replies := replies ++ (s.world.account c).replies }
    else s.world.account c
  /-- No reply is lost and none is counted twice. -/
  owed_add : t.manager.owedReplies + replies.length = s.manager.owedReplies
  /-- The answer is the last reply that was owed. -/
  answer : ∀ reply, result = .ok reply → t.manager.owedReplies = 0 ∧ replies.head? = some reply
  /-- An answer is noted where there is one. -/
  tally_eq : t.world.tally = s.world.tally.conclude result

/-- One reply was read from a connection between two channels. -/
structure Reads (link : Link) (reply : Response) (s t : Channel) : Prop where
  manager_eq : ∃ inbound stats, t.manager =
    { s.manager with link := some { link with inbound := inbound }, stats := stats }
  made_eq : t.world.made = s.world.made
  account_eq : ∀ c, t.world.account c =
    if link.number = c then (s.world.account c).receive reply else s.world.account c
  tally_eq : t.world.tally = s.world.tally

/-- Reading a reply fails and changes no more than the stream, or records the reply. -/
theorem readReply_cases {s : Channel} {link : Link} (hlink : s.manager.link = some link) :
    (∃ e t, s.readReply = (.error e, t) ∧ s.Receives link [] (.error e) t) ∨
      ∃ reply t, s.readReply = (.ok reply, t) ∧ s.Reads link reply t := by
  obtain ⟨result, inbound, later, hread⟩ := link.read_eq Response.ofBytes s.world
  unfold readReply
  simp only [hlink, hread]
  cases result with
  | error e =>
    refine .inl ⟨e, _, rfl, ⟨inbound, s.manager.owedReplies, _, _, rfl⟩, rfl, ?_, rfl, ?_, rfl⟩
    · intro c
      exact (ite_self _).symm
    · intro reply h
      cases h
  | ok read =>
    exact .inr ⟨read.1, _, rfl, ⟨inbound, _, rfl⟩, rfl, fun _ => rfl, rfl⟩

/-- The manager with so many replies owed. -/
def owe (owed : Nat) (s : Channel) : Channel :=
  { s with manager := { s.manager with owedReplies := owed } }

/-- Of a manager that owes replies only their number is set. -/
@[simp] theorem manager_owe (owed : Nat) (s : Channel) :
    (s.owe owed).manager = { s.manager with owedReplies := owed } := rfl

/-- Setting the number of replies that are owed does not change the world. -/
@[simp] theorem world_owe (owed : Nat) (s : Channel) : (s.owe owed).world = s.world := rfl

/-- The only reply that was owed is the answer, and its moment that of the last activity. -/
theorem Reads.answered {s t : Channel} {link : Link} {reply : Response}
    (h : s.Reads link reply t) (howed : s.manager.owedReplies = 1) :
    s.Receives link [reply] (.ok reply) ((t.owe 0).touch.record .answered) where
  manager_eq := by
    obtain ⟨inbound, stats, hmanager⟩ := h.manager_eq
    exact ⟨inbound, 0, stats, t.now, by simp [hmanager]; rfl⟩
  made_eq := h.made_eq
  account_eq := h.account_eq
  owed_add := by simp [howed]
  answer := by
    rintro _ ⟨⟩
    exact ⟨rfl, rfl⟩
  tally_eq := by simp [Tally.note, Tally.conclude, h.tally_eq]

/-- A late reply is passed over, and others are read after it. It is counted among the replies that
were read. -/
theorem Reads.passedOver {s t u : Channel} {link : Link} {reply : Response} {late : Nat}
    {inbound : Inbound} {replies : List Response} {result : Except ChannelError Response}
    (h : s.Reads link reply t) (howed : s.manager.owedReplies = late + 1)
    (hrest : ((t.owe late).tell (.lateReply late)).Receives { link with inbound := inbound }
      replies result u) :
    s.Receives link (replies ++ [reply]) result u := by
  obtain ⟨_, _, hmanager⟩ := h.manager_eq
  obtain ⟨inbound', owed, stats, activity, hmanager'⟩ := hrest.manager_eq
  refine ⟨⟨inbound', owed, stats, activity, ?_⟩, hrest.made_eq.trans h.made_eq, ?_, ?_, ?_, ?_⟩
  · rw [hmanager', manager_tell, manager_owe, hmanager]
  · intro c
    rw [hrest.account_eq c, world_tell, World.account_tell, world_owe, h.account_eq c]
    by_cases hc : link.number = c
    · simp [hc, Account.receive]
    · simp [hc]
  · have howed' : u.manager.owedReplies + replies.length = late := by simpa using hrest.owed_add
    simp only [List.length_append, List.length_singleton]
    omega
  · intro answer hanswer
    obtain ⟨hzero, hhead⟩ := hrest.answer answer hanswer
    exact ⟨hzero, by rw [List.head?_append, hhead]; rfl⟩
  · rw [hrest.tally_eq, world_tell, World.tally_tell, world_owe, h.tally_eq]

/-- Awaiting the reply to the last command reads the late replies before it, as far as it gets. The
induction is on the number of late ones. -/
theorem exists_receives_of_awaitReply (late : Nat) {s : Channel} {link : Link}
    (hlink : s.manager.link = some link) (howed : s.manager.owedReplies = late + 1) :
    ∃ replies, s.Receives link replies (awaitReply late s).1 (awaitReply late s).2 := by
  induction late generalizing s link with
  | zero =>
    unfold awaitReply
    rcases readReply_cases hlink with ⟨e, t, hread, hreceives⟩ | ⟨reply, t, hread, hreads⟩
    · simp only [hread]
      exact ⟨[], hreceives⟩
    · simp only [hread]
      exact ⟨[reply], hreads.answered howed⟩
  | succ late ih =>
    unfold awaitReply
    rcases readReply_cases hlink with ⟨e, t, hread, hreceives⟩ | ⟨reply, t, hread, hreads⟩
    · simp only [hread]
      exact ⟨[], hreceives⟩
    · simp only [hread]
      obtain ⟨inbound, stats, hmanager⟩ := hreads.manager_eq
      have hlink' : ((t.owe (late + 1)).tell (.lateReply (late + 1))).manager.link =
          some { link with inbound := inbound } := by simp [hmanager]
      obtain ⟨replies, hreceives⟩ := ih hlink' rfl
      exact ⟨replies ++ [reply], hreads.passedOver howed hreceives⟩

/-- A round trip over a connection between two channels: the attempt to write the frame, and the
replies that were read after it, the latest first. Only a frame that was taken as a whole and
flushed makes a reply due, and only after it can the connection be lost. -/
structure Trades (link : Link) (trade : Attempt) (replies : List Response)
    (result : Except ChannelError Response) (s t : Channel) : Prop where
  /-- The manager keeps its connection, which took some bytes, and its state. -/
  manager_eq : ∃ link' owed stats activity, link'.number = link.number ∧
    link'.outbound.accepted = link.outbound.accepted ++ trade.taken ∧ t.manager =
      { s.manager with
        link := some link', owedReplies := owed, stats := stats, lastActivity := activity }
  /-- No connection is made. -/
  made_eq : t.world.made = s.world.made
  /-- The attempt, its bytes and the replies are added to the account of this connection only. -/
  account_eq : ∀ c, t.world.account c =
    if link.number = c then
      { s.world.account c with
        attempts := trade :: (s.world.account c).attempts
        bytes := (s.world.account c).bytes ++ trade.taken
        replies := replies ++ (s.world.account c).replies }
    else s.world.account c
  /-- A beginning of the frame was taken. -/
  taken_prefix : trade.taken <+: trade.frame
  /-- A frame that did not leave makes no reply due, and its failure is not a loss. -/
  unsent : trade.confirmed = false → replies = [] ∧
    t.manager.owedReplies = s.manager.owedReplies ∧
    ∃ e, result = .error e ∧ e.isLoss = false ∧ (e.isTimeout = true → trade.taken = [])
  /-- A frame that left makes one reply due. -/
  sent : trade.confirmed = true → trade.taken = trade.frame ∧
    t.manager.owedReplies + replies.length = s.manager.owedReplies + 1
  /-- A command is answered only if its frame left and no earlier reply is missing. -/
  answer : ∀ reply, result = .ok reply →
    trade.confirmed = true ∧ t.manager.owedReplies = 0 ∧ replies.head? = some reply
  /-- One frame was offered, and an answer is noted where there is one. -/
  tally_eq : t.world.tally = (s.world.tally.offer link.number trade.frame).conclude result

/-- The connection after a round trip over it is the same one, with the bytes that it took of the
frame. -/
theorem Trades.exists_link {s t : Channel} {link : Link} {trade : Attempt}
    {replies : List Response} {result : Except ChannelError Response}
    (h : s.Trades link trade replies result t) :
    ∃ link', t.manager.link = some link' ∧ link'.number = link.number ∧
      link'.outbound.accepted = link.outbound.accepted ++ trade.taken := by
  obtain ⟨link', _, _, _, hnumber, haccepted, hmanager⟩ := h.manager_eq
  exact ⟨link', by rw [hmanager], hnumber, haccepted⟩

/-- The frame of a command left over a connection between two channels, and one more reply is
owed. -/
structure Sends (link link' : Link) (frame : List UInt8) (s t : Channel) : Prop where
  manager_eq : ∃ stats, t.manager =
    { s.manager with
      link := some link', owedReplies := s.manager.owedReplies + 1, stats := stats }
  number_eq : link'.number = link.number
  accepted_eq : link'.outbound.accepted = link.outbound.accepted ++ frame
  made_eq : t.world.made = s.world.made
  account_eq : ∀ c, t.world.account c =
    if link.number = c then (((s.world.account c).offer frame).take frame).confirm
    else s.world.account c
  tally_eq : t.world.tally = s.world.tally.offer link.number frame

/-- Sending the frame of a command fails before any reply is owed, or the frame leaves. In the first
case a beginning of the frame may have been taken. -/
theorem sendFrame_cases {s : Channel} {link : Link} {frame : List UInt8}
    (hlink : s.manager.link = some link) (hframe : frame ≠ []) :
    (∃ e taken t, s.sendFrame frame = (.error e, t) ∧
      s.Trades link ⟨frame, taken, false⟩ [] (.error e) t) ∨
    ∃ link' t, s.sendFrame frame = (.ok (), t) ∧ s.Sends link link' frame t := by
  obtain ⟨taken, hwrites, hreports⟩ := link.exists_writes_of_writeEncoded hframe s.world
  unfold sendFrame
  simp only [hlink]
  split
  · rename_i e link' w heq
    rw [heq] at hwrites hreports
    refine .inl ⟨e, taken, _, rfl, ?_⟩
    refine ⟨⟨link', _, _, _, hwrites.number_eq, hwrites.accepted_eq, rfl⟩, hwrites.made_eq, ?_,
      hwrites.taken_prefix, ?_, ?_, ?_, ?_⟩
    · intro c
      exact hwrites.account_eq c
    · intro _
      exact ⟨rfl, rfl, e, rfl, hreports⟩
    · intro h
      cases h
    · intro reply h
      cases h
    · exact hwrites.tally_eq
  · rename_i link' w heq
    rw [heq] at hwrites hreports
    have htaken : taken = frame := hreports
    rw [htaken] at hwrites
    refine .inr ⟨link', _, rfl, ⟨⟨_, rfl⟩, hwrites.number_eq, hwrites.accepted_eq,
      hwrites.made_eq, ?_, hwrites.tally_eq⟩⟩
    intro c
    have hnumber : link'.number = link.number := hwrites.number_eq
    have haccount : w.account c = _ := hwrites.account_eq c
    rw [world_count, world_record, World.account_record, haccount]
    by_cases hc : link.number = c <;> simp [Account.note, hnumber, hc]

/-- A frame that left and the replies that were read after it make a round trip. -/
theorem Sends.trades {s t u : Channel} {link link' : Link} {frame : List UInt8}
    {replies : List Response} {result : Except ChannelError Response}
    (hsends : s.Sends link link' frame t) (hreceives : t.Receives link' replies result u) :
    s.Trades link ⟨frame, frame, true⟩ replies result u where
  manager_eq := by
    obtain ⟨_, ht⟩ := hsends.manager_eq
    obtain ⟨inbound, owed, stats, activity, hu⟩ := hreceives.manager_eq
    exact ⟨{ link' with inbound := inbound }, owed, stats, activity, hsends.number_eq,
      hsends.accepted_eq, by rw [hu, ht]⟩
  made_eq := hreceives.made_eq.trans hsends.made_eq
  account_eq := by
    intro c
    rw [hreceives.account_eq c, hsends.account_eq c, hsends.number_eq]
    split <;> rfl
  taken_prefix := List.prefix_rfl
  unsent := by
    intro h
    cases h
  sent := by
    obtain ⟨_, ht⟩ := hsends.manager_eq
    intro _
    refine ⟨rfl, ?_⟩
    rw [hreceives.owed_add, ht]
  answer := by
    intro reply h
    exact ⟨rfl, hreceives.answer reply h⟩
  tally_eq := by rw [hreceives.tally_eq, hsends.tally_eq]

/-- A round trip is one attempt to write the frame, and reads replies only if it succeeds. -/
theorem exists_trades_of_roundTrip {s : Channel} {link : Link} {frame : List UInt8}
    (hlink : s.manager.link = some link) (hframe : frame ≠ []) :
    ∃ trade replies, trade.frame = frame ∧
      s.Trades link trade replies (s.roundTrip frame).1 (s.roundTrip frame).2 := by
  unfold roundTrip
  rcases sendFrame_cases hlink hframe with
    ⟨e, taken, t, hsend, htrades⟩ | ⟨link', t, hsend, hsends⟩
  · simp only [hsend]
    exact ⟨_, [], rfl, htrades⟩
  · simp only [hsend]
    obtain ⟨stats, hmanager⟩ := hsends.manager_eq
    have howed : t.manager.owedReplies = s.manager.owedReplies + 1 := by rw [hmanager]
    obtain ⟨replies, hreceives⟩ := exists_receives_of_awaitReply s.manager.owedReplies
      (show t.manager.link = some link' by rw [hmanager]) howed
    rw [howed, Nat.add_sub_cancel]
    exact ⟨_, replies, rfl, hsends.trades hreceives⟩

end Channel

end CommandChannel
