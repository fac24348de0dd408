import CommandChannel.Proofs.Moves

/-!
# What all connections carried

The totals of a history tell of all connections together: how many were made, which frames of
commands left and which replies came back. A frame counts when the connection took all of it and
what it took was flushed, and a reply counts when its frame was read to the end and understood.
-/

namespace CommandChannel

/-- A reply that was read from a connection; its frame has so many bytes. -/
structure Receipt where
  /-- The number of the connection. -/
  conn : Nat
  reply : Response
  /-- The bytes of its frame, with the header. -/
  size : Nat

/-- What a history tells of the connections, commands and replies of all time. -/
structure Totals where
  /-- How often the manager became connected. -/
  connections : Nat := 0
  /-- The frames of commands that left, and the connections they left by, in the order of time. -/
  sent : List (Nat × List UInt8) := []
  /-- The replies that were read, in the order of time. -/
  received : List Receipt := []

/-- The event adds nothing to the totals. -/
def Event.isSilent : Event → Bool
  | change _ next => next != .connected
  | sent .. | received .. => false
  | _ => true

/-- The search for a connection is silent. Only a manager that takes one over adds to the totals. -/
theorem Event.isSilent_of_isDialing {event : Event} (h : event.isDialing = true) :
    event.isSilent = true := by
  cases event with
  | dial | lookup | opened | closed => rfl
  | _ => cases h

namespace Totals

/-- A connection is made. -/
def connect (totals : Totals) : Totals := { totals with connections := totals.connections + 1 }

/-- The frame of a command leaves by a connection. -/
def send (conn : Nat) (frame : List UInt8) (totals : Totals) : Totals :=
  { totals with sent := totals.sent ++ [(conn, frame)] }

/-- A reply is read. -/
def receive (receipt : Receipt) (totals : Totals) : Totals :=
  { totals with received := totals.received ++ [receipt] }

/-- The totals after an event. -/
def note (totals : Totals) : Event → Totals
  | .change _ .connected => totals.connect
  | .sent conn frame => totals.send conn frame
  | .received conn reply size => totals.receive ⟨conn, reply, size⟩
  | _ => totals

/-- The bytes of all frames that left. -/
def bytesSent (totals : Totals) : Nat :=
  totals.sent.foldl (fun bytes frame => bytes + frame.2.length) 0

/-- The bytes of the frames of all replies. -/
def bytesReceived (totals : Totals) : Nat :=
  totals.received.foldl (fun bytes receipt => bytes + receipt.size) 0

/-- A silent event leaves the totals as they are, when it is noted in them. -/
theorem note_of_isSilent {event : Event} (h : event.isSilent = true) (totals : Totals) :
    totals.note event = totals := by
  cases event with
  | change _ next => cases next <;> first | rfl | cases h
  | sent | received => cases h
  | _ => rfl

section Counts

variable (totals : Totals) (conn : Nat) (frame : List UInt8) (receipt : Receipt)

/-- A frame that leaves is one more of those that were sent. -/
@[simp] theorem length_sent_send :
    (totals.send conn frame).sent.length = totals.sent.length + 1 := List.length_append

/-- A frame that leaves adds its bytes to those that were sent. -/
@[simp] theorem bytesSent_send :
    (totals.send conn frame).bytesSent = totals.bytesSent + frame.length := by
  simp [bytesSent, send]

/-- A reply that is read is one more of those that were received. -/
@[simp] theorem length_received_receive :
    (totals.receive receipt).received.length = totals.received.length + 1 := List.length_append

/-- A reply that is read adds the bytes of its frame to those that were received. -/
@[simp] theorem bytesReceived_receive :
    (totals.receive receipt).bytesReceived = totals.bytesReceived + receipt.size := by
  simp [bytesReceived, receive]

end Counts

end Totals

namespace World

/-- The totals of all connections. -/
def totals (w : World) : Totals := w.history.foldr (fun entry totals => totals.note entry.event) {}

/-- The totals after an event are the totals before, with the event noted. -/
@[simp] theorem totals_record (event : Event) (w : World) :
    (w.record event).totals = w.totals.note event := rfl

/-- Telling something to watchers is silent, whatever they are told. -/
@[simp] theorem totals_tell (notice : Notice) (w : World) : (w.tell notice).totals = w.totals := rfl

/-- Silent events leave the totals as they are, however many there are. -/
theorem Grows.totals_eq {v w : World} (h : v.Grows (Event.isSilent · = true) w) :
    w.totals = v.totals := by
  obtain ⟨later, hw, hlater⟩ := h
  unfold totals
  rw [hw, List.foldr_append]
  clear hw
  induction later with
  | nil => rfl
  | cons entry later ih =>
    obtain ⟨hentry, hrest⟩ := List.forall_mem_cons.1 hlater
    rw [List.foldr_cons, Totals.note_of_isSilent hentry, ih hrest]

/-- Starting a thread is silent, whether it starts or not. Monitors are counted by their manager. -/
theorem totals_spawn (epoch : Nat) (interval : Duration) (w : World) :
    (w.spawn epoch interval).2.totals = w.totals := by
  unfold spawn
  split <;> rfl

end World

namespace Link

/-- The connection takes all bytes of a frame, and what it took is flushed. -/
def Takes (frame : List UInt8) (w : World) (link : Link) : Prop :=
  ∃ written flushed, ({ link.outbound with now := w.now } : Outbound).drain frame =
    (.whole, written) ∧ written.flush = (.ok (), flushed)

/-- The connection gives a whole frame with the reply in its body. -/
def Gives (reply : Response) (size : Nat) (w : World) (link : Link) : Prop :=
  ∃ body read, Frame.readBody .blocking { link.inbound with now := w.now } = (.ok body, read) ∧
    Frame.parse Response.ofBytes body = .ok reply ∧ size = Frame.headerSize + body.length

/-- Writing a frame is silent: only its sender knows whether it is the frame of a command. -/
theorem totals_writeEncoded (frame : List UInt8) (link : Link) (w : World) :
    (link.writeEncoded frame w).2.2.totals = w.totals := by
  unfold writeEncoded
  simp only
  unfold recordWrite
  split <;> rfl

/-- Writing to a connection is silent, also if what is written has no frame. -/
theorem totals_write (payload : Payload) (link : Link) (w : World) :
    (link.write payload w).2.2.totals = w.totals := by
  unfold write
  split
  · rfl
  · rename_i frame _
    have hwritten := link.totals_writeEncoded frame w
    split <;> rename_i heq <;> rw [heq] at hwritten <;> exact hwritten

/-- A write succeeds where the connection takes the frame, and nowhere else. So what counts as sent
is what its connection took. -/
theorem writeEncoded_eq_ok_iff (frame : List UInt8) (link : Link) (w : World) :
    (link.writeEncoded frame w).1 = .ok () ↔ link.Takes frame w := by
  have hresult : (link.writeEncoded frame w).1 =
      (Frame.writeEncoded .blocking frame { link.outbound with now := w.now }).1 := rfl
  rw [hresult]
  unfold Frame.writeEncoded Takes
  rcases ({ link.outbound with now := w.now } : Outbound).drain frame with ⟨drain, written⟩
  cases drain with
  | refused _ | failed _ _ => simp
  | whole => rcases hflush : written.flush with ⟨_ | _, flushed⟩ <;> simp [hflush]

/-- A read succeeds where the connection gives a frame with a reply, and nowhere else. So what
counts as received is what its connection gave. -/
theorem read_eq_ok_iff (reply : Response) (size : Nat) (link : Link) (w : World) :
    (link.read Response.ofBytes w).1 = .ok (reply, size) ↔ link.Gives reply size w := by
  unfold read Frame.read Gives
  rcases Frame.readBody .blocking { link.inbound with now := w.now } with ⟨_ | body, s⟩
  · simp
  · cases hparse : Frame.parse Response.ofBytes body with
    | error _ => simp [hparse, Except.map]
    | ok parsed => simp [hparse, Except.map, eq_comm]

end Link

namespace Channel

section Silent

variable (s : Channel)

/-- Giving a connection up adds nothing, and takes nothing back that was sent or received. -/
@[simp] theorem totals_closeLink : s.closeLink.world.totals = s.world.totals := by
  unfold closeLink
  split <;> rfl

/-- Only a manager that becomes connected made a connection. Staying connected makes none. -/
theorem totals_transition (next : LinkState) :
    (s.transition next).world.totals =
      if s.manager.state ≠ next ∧ next = .connected then s.world.totals.connect
      else s.world.totals := by
  unfold transition
  by_cases hsame : s.manager.state = next
  · simp [hsame]
  · cases next <;> simp [hsame, Totals.note]

/-- Looking up the peer and connecting to it adds nothing, as it is the manager's change of state
that counts. -/
@[simp] theorem totals_dial : s.dial.2.world.totals = s.world.totals := by
  unfold dial
  simp only
  split
  · rfl
  · rename_i addrs _
    obtain ⟨hgrows, -⟩ := Link.connectAfter_world (.io Link.noAddress)
      s.manager.config.ioTimeout addrs (s.world.lookUp s.manager.config.host)
    exact (hgrows.mono fun _ => Event.isSilent_of_isDialing).totals_eq

/-- Seeing to the monitor adds nothing to what passed over connections. -/
@[simp] theorem totals_ensureHeartbeat : s.ensureHeartbeat.world.totals = s.world.totals := by
  unfold ensureHeartbeat
  split
  · rfl
  · rfl
  · rename_i interval _ _
    have hspawn := s.world.totals_spawn s.manager.epoch interval
    split <;> rename_i heq <;> rw [heq] at hspawn <;> exact hspawn

/-- Stopping the monitor adds nothing to what passed over connections. -/
@[simp] theorem totals_stopHeartbeat : s.stopHeartbeat.2.world.totals = s.world.totals := by
  unfold stopHeartbeat
  split <;> rfl

/-- The frame that announces the end of a connection is not the frame of a command. -/
@[simp] theorem totals_sendClose : s.sendClose.world.totals = s.world.totals := by
  unfold sendClose
  split
  · rfl
  · rename_i link _
    split
    · have hwritten := link.totals_write (.command .close) s.world
      rcases hwrite : link.write (.command .close) s.world with ⟨_ | _, link', w⟩ <;>
        rw [hwrite] at hwritten <;> exact hwritten
    · rfl

end Silent

section Transfers

variable {s : Channel} {link : Link}

/-- A frame that the connection takes adds to what was sent, even if its reply never comes. -/
theorem totals_sendFrame_of_takes {frame : List UInt8} (hlink : s.manager.link = some link)
    (h : link.Takes frame s.world) :
    (s.sendFrame frame).2.world.totals = s.world.totals.send link.number frame := by
  have hwritten := link.totals_writeEncoded frame s.world
  have hok := (link.writeEncoded_eq_ok_iff frame s.world).2 h
  have hnumber : (link.writeEncoded frame s.world).2.1.number = link.number := rfl
  unfold sendFrame
  simp only [hlink]
  rcases hwrite : link.writeEncoded frame s.world with ⟨_ | _, link', w⟩ <;>
    rw [hwrite] at hwritten hok hnumber
  · cases hok
  · simp only [world_count, world_record, World.totals_record] at hwritten hnumber ⊢
    rw [hwritten, hnumber]
    rfl

/-- A frame that is cut short, or not flushed, adds nothing. -/
theorem totals_sendFrame_of_not_takes {frame : List UInt8} (hlink : s.manager.link = some link)
    (h : ¬ link.Takes frame s.world) :
    (s.sendFrame frame).2.world.totals = s.world.totals := by
  have hwritten := link.totals_writeEncoded frame s.world
  have hok := mt (link.writeEncoded_eq_ok_iff frame s.world).1 h
  unfold sendFrame
  simp only [hlink]
  rcases hwrite : link.writeEncoded frame s.world with ⟨_ | _, link', w⟩ <;>
    rw [hwrite] at hwritten hok
  · exact hwritten
  · exact absurd rfl hok

/-- A reply that the connection gives adds to what was received, whether it is late or not. -/
theorem totals_readReply_of_gives {reply : Response} {size : Nat}
    (hlink : s.manager.link = some link) (h : link.Gives reply size s.world) :
    s.readReply.2.world.totals = s.world.totals.receive ⟨link.number, reply, size⟩ := by
  have hok := (link.read_eq_ok_iff reply size s.world).2 h
  obtain ⟨result, inbound, now, hread⟩ := link.read_eq Response.ofBytes s.world
  rw [hread] at hok
  have hresult : result = .ok (reply, size) := hok
  subst hresult
  unfold readReply
  simp only [hlink, hread]
  rfl

/-- A frame that breaks off or is not understood adds nothing. -/
theorem totals_readReply_of_not_gives (hlink : s.manager.link = some link)
    (h : ∀ reply size, ¬ link.Gives reply size s.world) :
    s.readReply.2.world.totals = s.world.totals := by
  obtain ⟨result, inbound, now, hread⟩ := link.read_eq Response.ofBytes s.world
  unfold readReply
  simp only [hlink, hread]
  cases result with
  | error _ => rfl
  | ok got =>
    refine absurd ((link.read_eq_ok_iff got.1 got.2 s.world).1 ?_) (h got.1 got.2)
    rw [hread]

end Transfers

/-- What a move adds to the totals: nothing, unless the manager becomes connected, its connection
takes a frame, or its connection gives a reply. -/
theorem Move.totals_cases {s t : Channel} {act : Act} (h : s.Move act t) :
    t.world.totals = s.world.totals ∨
    (t.manager.state = .connected ∧ s.manager.state ≠ .connected ∧
      t.world.totals = s.world.totals.connect) ∨
    (∃ link frame, t = (s.sendFrame frame).2 ∧ s.manager.link = some link ∧
      link.Takes frame s.world ∧ t.world.totals = s.world.totals.send link.number frame) ∨
    ∃ link reply size, t = s.readReply.2 ∧ s.manager.link = some link ∧
      link.Gives reply size s.world ∧
      t.world.totals = s.world.totals.receive ⟨link.number, reply, size⟩ := by
  cases h with
  | tell _ | count _ | fault | touch | answer | sleep _ | take _ _ | settle _ _ | owe _ _
  | wait _ => exact .inl rfl
  | close => exact .inl s.totals_closeLink
  | dial _ => exact .inl s.totals_dial
  | monitor _ => exact .inl s.totals_ensureHeartbeat
  | stop => exact .inl s.totals_stopHeartbeat
  | farewell => exact .inl s.totals_sendClose
  | @change next _ =>
    rw [totals_transition, manager_transition]
    split
    · rename_i hchange
      obtain ⟨hbefore, rfl⟩ := hchange
      exact .inr (.inl ⟨rfl, hbefore, rfl⟩)
    · exact .inl rfl
  | send frame _ =>
    cases hlink : s.manager.link with
    | none =>
      left
      unfold sendFrame
      rw [hlink]
    | some link =>
      by_cases htakes : link.Takes frame s.world
      · exact .inr (.inr (.inl ⟨link, frame, rfl, rfl, htakes,
          totals_sendFrame_of_takes hlink htakes⟩))
      · exact .inl (totals_sendFrame_of_not_takes hlink htakes)
  | read _ =>
    cases hlink : s.manager.link with
    | none =>
      left
      unfold readReply
      rw [hlink]
    | some link =>
      by_cases hgives : ∃ reply size, link.Gives reply size s.world
      · obtain ⟨reply, size, hgives⟩ := hgives
        exact .inr (.inr (.inr ⟨link, reply, size, rfl, rfl, hgives,
          totals_readReply_of_gives hlink hgives⟩))
      · refine .inl (totals_readReply_of_not_gives hlink fun reply size hsome => ?_)
        exact hgives ⟨reply, size, hsome⟩

end Channel

end CommandChannel
