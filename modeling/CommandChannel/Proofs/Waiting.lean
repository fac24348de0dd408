import CommandChannel.Proofs.Clocks
import CommandChannel.Proofs.Invariants
import CommandChannel.Proofs.Receipts

/-!
# How long a reply is waited for

The limit of a connection holds for each read from it, and a frame is put together by as many reads
as its bytes need. A reply is waited for once for each piece in which it comes, so the limit bounds
every single wait, and all of them together only if there is no more than one.
-/

namespace CommandChannel

namespace Inbound

/-- Reads that follow each other, and the time that each of them took. -/
inductive Paces : Inbound → List Duration → Inbound → Prop
  | nil (s : Inbound) : Paces s [] s
  | cons {s t u : Inbound} {want : Nat} {r : Except IoError (List UInt8)} {spans : List Duration}
      (hread : s.read want = (r, t)) (h : Paces t spans u) : Paces s ((t.now - s.now) :: spans) u

/-- How many of some spans of time are not empty. -/
def waits (spans : List Duration) : Nat := spans.countP fun span => !span.isZero

section Paces

variable {s t u : Inbound} {spans more : List Duration} {want : Nat}
  {r : Except IoError (List UInt8)}

/-- Waits in a row are those in the first part and those in the second one. -/
theorem waits_append (spans more : List Duration) :
    waits (spans ++ more) = waits spans + waits more :=
  List.countP_append

/-- One more read is one more wait at most, whatever time it takes. -/
theorem waits_cons_le (span : Duration) (spans : List Duration) :
    waits (span :: spans) ≤ waits spans + 1 := by
  unfold waits
  rw [List.countP_cons]
  split <;> omega

/-- A read that takes no time is no wait. So reads that find their bytes there do not count. -/
theorem waits_cons_of_isZero {span : Duration} (h : span.isZero = true) (spans : List Duration) :
    waits (span :: spans) = waits spans :=
  List.countP_cons_of_neg (by simp [h])

/-- As many spans as are not empty, each within the limit, add up to as many limits at most. -/
theorem sum_le_waits {limit : Duration} (h : ∀ span ∈ spans, span ≤ limit) :
    (spans.map Duration.nanos).sum ≤ limit.nanos * waits spans := by
  induction spans with
  | nil => exact Nat.zero_le _
  | cons span spans ih =>
    have hrest := ih fun other hother => h other (List.mem_cons_of_mem _ hother)
    have hspan : span.nanos ≤ limit.nanos := h span List.mem_cons_self
    rw [List.map_cons, List.sum_cons]
    cases hzero : span.isZero with
    | true =>
      have hnone : span.nanos = 0 := by simpa [Duration.isZero] using hzero
      rw [waits_cons_of_isZero hzero, hnone, Nat.zero_add]
      exact hrest
    | false =>
      have hcount : waits (span :: spans) = waits spans + 1 :=
        List.countP_cons_of_pos (by simp [hzero])
      rw [hcount, Nat.mul_succ, Nat.add_comm]
      exact Nat.add_le_add hrest hspan

/-- Reads may follow other reads, and the times of both are put in a row. -/
theorem Paces.trans (h : s.Paces spans t) (h' : t.Paces more u) :
    s.Paces (spans ++ more) u := by
  induction h with
  | nil => exact h'
  | cons hread _ ih => exact .cons hread (ih h')

/-- A single read takes the time from before it to after it. -/
theorem Paces.single (hread : s.read want = (r, t)) : s.Paces [t.now - s.now] t :=
  .cons hread (.nil t)

/-- Reads in a row do not go back in time, as none of them does. -/
theorem Paces.now_le (h : s.Paces spans t) : s.now ≤ t.now := by
  induction h with
  | nil s => exact s.now.le_refl
  | cons hread _ ih => exact Duration.le_trans (now_le_of_read hread) ih

/-- The limit of a stream stays what it is, however often it is read from. -/
theorem Paces.timeout_eq (h : s.Paces spans t) : t.timeout = s.timeout := by
  induction h with
  | nil => rfl
  | cons hread _ ih => exact ih.trans (exists_wait_of_read hread).1

/-- The time of all reads is the sum of their times. So no time passes between them. -/
theorem Paces.elapsed_eq (h : s.Paces spans t) :
    (t.now - s.now).nanos = (spans.map Duration.nanos).sum := by
  induction h with
  | nil s => exact Nat.sub_self _
  | cons hread h ih =>
    have hfirst := Duration.le_iff.1 (now_le_of_read hread)
    have hrest := Duration.le_iff.1 h.now_le
    rw [List.map_cons, List.sum_cons, ← ih]
    simp only [Duration.nanos_sub]
    omega

/-- Each read is within the limit of the stream, as the limit begins anew with it. -/
theorem Paces.le_limit {limit : Duration} (h : s.Paces spans t) (hlimit : s.timeout = some limit) :
    ∀ span ∈ spans, span ≤ limit := by
  induction h with
  | nil => exact fun span hspan => absurd hspan List.not_mem_nil
  | @cons s t _ _ _ _ hread _ ih =>
    obtain ⟨htimeout, span, hnow, hle⟩ := exists_wait_of_read hread
    have hspan : t.now - s.now ≤ span := by
      rw [hnow, Duration.le_iff, Duration.nanos_sub, Duration.nanos_add]
      have hmin : Nat.min (s.now.nanos + span.nanos) (spanBound - 1) ≤ s.now.nanos + span.nanos :=
        Nat.min_le_left _ _
      omega
    intro other hother
    rcases List.mem_cons.1 hother with rfl | hother
    · exact Duration.le_trans hspan (hle limit hlimit)
    · exact ih (htimeout.trans hlimit) other hother

/-- All reads together take as many limits at most as there are waits. -/
theorem Paces.elapsed_le {limit : Duration} (h : s.Paces spans t)
    (hlimit : s.timeout = some limit) : (t.now - s.now).nanos ≤ limit.nanos * waits spans := by
  rw [h.elapsed_eq]
  exact sum_le_waits (h.le_limit hlimit)

/-- A read that is interrupted is so at once, so that repeating it costs no time. -/
theorem now_eq_of_interrupted {error : IoError} (h : s.read want = (.error error, t))
    (hkind : error.kind = .interrupted) : t.now = s.now := by
  obtain ⟨_, _, _, _, -, hfetches⟩ := exists_fetches_of_read_error h
  cases hfetches with
  | late | timeout => cases hkind
  | fail => rfl

/-- Bytes are waited for once each at most, since each wait brings one of them. The induction is on
the reads by which they pass. -/
theorem Passes.exists_paces {taken : List UInt8} (h : s.Passes taken t) :
    ∃ spans, s.Paces spans t ∧ waits spans ≤ taken.length := by
  induction h with
  | refl s => exact ⟨[], .nil s, Nat.le_refl _⟩
  | @chunk s t _ _ chunk _ hread hne _ ih =>
    obtain ⟨spans, hpaces, hle⟩ := ih
    refine ⟨_, .cons hread hpaces, ?_⟩
    have hwaits := waits_cons_le (t.now - s.now) spans
    have hpos := List.length_pos_iff.2 hne
    rw [List.length_append]
    omega
  | interrupted hread hkind _ ih =>
    obtain ⟨spans, hpaces, hle⟩ := ih
    refine ⟨_, .cons hread hpaces, ?_⟩
    rwa [waits_cons_of_isZero]
    rw [now_eq_of_interrupted hread hkind]
    simp [Duration.isZero]

/-- Besides the waits for the bytes that come there may be one for those that do not. -/
theorem Reads.exists_paces {taken : List UInt8} {stop : Stop} (h : s.Reads taken stop t) :
    ∃ spans, s.Paces spans t ∧ waits spans ≤ taken.length + 1 := by
  obtain ⟨u, hpasses, hstops⟩ := h
  obtain ⟨spans, hpaces, hle⟩ := hpasses.exists_paces
  have hlast {want : Nat} {r : Except IoError (List UInt8)} (hread : u.read want = (r, t)) :
      ∃ spans, s.Paces spans t ∧ waits spans ≤ taken.length + 1 := by
    refine ⟨_, hpaces.trans (.single hread), ?_⟩
    have hone := waits_cons_le (t.now - u.now) []
    rw [waits_append]
    exact Nat.add_le_add hle hone
  cases hstops with
  | complete => exact ⟨spans, hpaces, Nat.le_succ_of_le hle⟩
  | ended _ hread => exact hlast hread
  | failed _ hread _ => exact hlast hread

end Paces

end Inbound

namespace Link

/-- Writing to a connection leaves the stream of bytes to read alone. -/
theorem inbound_writeEncoded (frame : List UInt8) (link : Link) (w : World) :
    (link.writeEncoded frame w).2.1.inbound = link.inbound := rfl

/-- Writing to a connection leaves the stream of bytes to read alone, also if what is written has no
frame. -/
theorem inbound_write (payload : Payload) (link : Link) (w : World) :
    (link.write payload w).2.1.inbound = link.inbound := by
  unfold write
  split
  · rfl
  · rename_i frame _
    have hsame := link.inbound_writeEncoded frame w
    split <;> rename_i heq <;> rwa [heq] at hsame

/-- Reading from a connection leaves its limit as it is, whatever comes of the read. -/
theorem timeout_read {α : Type} (format : Frame.Format α) (link : Link) (w : World) :
    (link.read format w).2.1.inbound.timeout = link.inbound.timeout := by
  obtain ⟨_, _, t, hreads, hreport⟩ :=
    Frame.exists_receipt_of_read format { link.inbound with now := w.now }
  obtain ⟨_, hpaces, -⟩ := hreads.exists_paces
  change (Frame.read .blocking format { link.inbound with now := w.now }).2.timeout = _
  rw [(hreport .blocking).1]
  exact hpaces.timeout_eq

/-- A connection that is made has the limit that it was tried with. -/
theorem timeout_connect {addrs : List SocketAddr} {limit : Duration} {link : Link} {w u : World}
    (h : connect addrs limit w = (.ok link, u)) : link.inbound.timeout = some limit := by
  obtain ⟨tried, result, v, hconnect, -, hsettles, -⟩ :=
    settles_connectAfter (.io noAddress) limit addrs w
  rw [connect, hconnect] at h
  cases h
  cases hsettles
  rfl

end Link

namespace Channel

/-- The connection of a manager, if it has one, has the limit on reads that was configured. -/
def Limited (s : Channel) : Prop :=
  ∀ link ∈ s.manager.link, link.inbound.timeout = some s.manager.config.ioTimeout

section Limited

variable {s t : Channel}

/-- Without a connection there is none that could lack the limit. -/
theorem limited_of_none (hlink : s.manager.link = none) : s.Limited := by
  intro link hmem
  rw [hlink] at hmem
  cases hmem

/-- What changes neither the connection nor the configuration keeps the limit. -/
theorem Limited.of_eq (hs : s.Limited) (hlink : t.manager.link = s.manager.link)
    (hconfig : t.manager.config = s.manager.config) : t.Limited := by
  unfold Limited
  rwa [hlink, hconfig]

/-- A manager whose connection has the limit that was configured has a limit on reads. -/
theorem limited_of_some {link : Link} (hlink : s.manager.link = some link)
    (hlimit : link.inbound.timeout = some s.manager.config.ioTimeout) : s.Limited := by
  intro other hmem
  cases hlink.symm.trans hmem
  exact hlimit

/-- Sending a frame keeps the limit, as it leaves the stream of bytes to read alone. -/
theorem Limited.sendFrame (hs : s.Limited) (frame : List UInt8) :
    (s.sendFrame frame).2.Limited := by
  unfold Channel.sendFrame
  split
  · exact hs
  · rename_i link hlink
    have hsame := link.inbound_writeEncoded frame s.world
    have hlimit := hs link hlink
    rw [← hsame] at hlimit
    split <;> rename_i heq <;> rw [heq] at hlimit <;> exact limited_of_some rfl hlimit

/-- Offering the closing frame keeps the limit, as it leaves the stream of bytes to read alone. -/
theorem Limited.sendClose (hs : s.Limited) : s.sendClose.Limited := by
  unfold Channel.sendClose
  split
  · exact hs
  · rename_i link hlink
    have hlimit := hs link hlink
    rw [← link.inbound_write (.command .close) s.world] at hlimit
    split
    · split
      rename_i heq
      rw [heq] at hlimit
      split <;> exact limited_of_some rfl hlimit
    · exact hs

/-- Reading a reply keeps the limit, whether the reply comes or not. -/
theorem Limited.readReply (hs : s.Limited) : s.readReply.2.Limited := by
  unfold Channel.readReply
  split
  · exact hs
  · rename_i link hlink
    have hlimit := hs link hlink
    rw [← link.timeout_read Response.ofBytes s.world] at hlimit
    split <;> rename_i heq <;> rw [heq] at hlimit <;> exact limited_of_some rfl hlimit

/-- Awaiting a reply keeps the limit, by induction on the late ones. -/
theorem Limited.awaitReply (late : Nat) (hs : s.Limited) : (awaitReply late s).2.Limited := by
  induction late generalizing s with
  | zero =>
    have hread := hs.readReply
    unfold Channel.awaitReply
    split <;> rename_i heq <;> rw [heq] at hread <;> exact hread
  | succ late ih =>
    have hread := hs.readReply
    unfold Channel.awaitReply
    split <;> rename_i heq <;> rw [heq] at hread
    · exact hread
    · exact ih (hread.of_eq rfl rfl)

/-- A round trip keeps the limit, whether its frame leaves or not. -/
theorem Limited.roundTrip (hs : s.Limited) (frame : List UInt8) :
    (s.roundTrip frame).2.Limited := by
  have hsent := hs.sendFrame frame
  unfold Channel.roundTrip
  split <;> rename_i heq <;> rw [heq] at hsent
  · exact hsent
  · exact hsent.awaitReply _

/-- A manager that is given a connection with the limit has it from then on. -/
theorem Limited.establish {link : Link}
    (hlimit : link.inbound.timeout = some s.manager.config.ioTimeout) :
    (s.establish link).Limited := by
  obtain ⟨_, _, hadopted⟩ := s.manager_adopt link
  obtain ⟨_, _, hmanager, -⟩ := manager_ensureHeartbeat (s.adopt link)
  have hlink : (s.establish link).manager.link = some link := by
    rw [establish_eq, hmanager, hadopted]
  have hconfig : (s.establish link).manager.config = s.manager.config := by
    rw [establish_eq, hmanager, hadopted]
  rw [← hconfig] at hlimit
  exact limited_of_some hlink hlimit

/-- A connection that is opened is given the limit, and after a failure there is none. -/
theorem limited_openLink (s : Channel) : s.openLink.2.Limited := by
  have hmanager : s.closeLink.dial.2.manager = s.closeLink.manager := manager_dial _
  unfold openLink
  rcases hdial : s.closeLink.dial with ⟨e | link, u⟩ <;> rw [hdial] at hmanager
  · exact limited_of_none (by rw [hmanager]; exact s.link_closeLink)
  · apply Limited.establish
    rw [hmanager]
    unfold Channel.dial at hdial
    dsimp only at hdial
    split at hdial
    · cases hdial
    · rename_i addrs _
      rcases hconnect : Link.connect addrs s.closeLink.manager.config.ioTimeout
        (s.closeLink.world.lookUp s.closeLink.manager.config.host) with ⟨result, w⟩
      rw [hconnect] at hdial
      cases hdial
      exact Link.timeout_connect hconnect

end Limited

/-- The parts of operations keep the limit, and so do whole runs. -/
theorem stable_limited : Stable Limited where
  tell _ hs := hs.of_eq rfl rfl
  count _ hs := hs.of_eq rfl rfl
  change _ hs := hs.of_eq (by rw [manager_transition]) (by rw [manager_transition])
  close _ := limited_of_none (link_closeLink _)
  sleep _ hs := hs.of_eq rfl rfl
  wait _ hs := hs.of_eq rfl rfl
  settle _ hs := hs.of_eq rfl rfl
  stop hs := hs.of_eq (by rw [(stopHeartbeat_eq _).1]) (by rw [(stopHeartbeat_eq _).1])
  farewell hs := hs.sendClose
  opening _ _ := limited_openLink _
  trip frame hs := hs.roundTrip frame

section Awaits

/-- The reply to a frame that has just left is awaited, and no other: the bytes that were taken for
it, the time that each read of them took, and what was reported of them. -/
structure Awaits (limit : Duration) (s : Channel) (taken : List UInt8) (spans : List Duration)
    (reply : Except ChannelError (Response × Nat)) (t : Channel) : Prop where
  /-- The reads are those of one frame from the connection, and time passes for nothing else. -/
  exists_reads : ∃ link stop inbound, s.manager.link = some link ∧
    Inbound.Reads { link.inbound with now := s.now } taken stop inbound ∧
    Inbound.Paces { link.inbound with now := s.now } spans inbound ∧
    Frame.Receipt .blocking Response.ofBytes taken stop reply ∧ t.now = inbound.now
  /-- The time that passes is that of the reads. -/
  elapsed_eq : (t.now - s.now).nanos = (spans.map Duration.nanos).sum
  /-- No single read takes longer than the limit. -/
  le_limit : ∀ span ∈ spans, span ≤ limit
  /-- Each read that waits takes as long as the limit at most. -/
  elapsed_le : (t.now - s.now).nanos ≤ limit.nanos * Inbound.waits spans
  /-- There is one wait for each byte at most, and one for a byte that does not come. -/
  waits_le : Inbound.waits spans ≤ taken.length + 1
  /-- Where time is up, and nothing else is wrong, no byte has come. -/
  nothing_taken : reply = .error .timedOut → taken.length = 0

variable {s u : Channel} {frame : List UInt8} {limit : Duration} {taken : List UInt8}
  {spans : List Duration} {reply : Except ChannelError (Response × Nat)} {t : Channel}

/-- All waits together are as long as the limit at most if there is only one. -/
theorem Awaits.elapsed_le_limit (h : s.Awaits limit taken spans reply t)
    (hone : Inbound.waits spans ≤ 1) : t.now - s.now ≤ limit := by
  have hle := Nat.le_trans h.elapsed_le (Nat.mul_le_mul_left limit.nanos hone)
  rwa [Nat.mul_one] at hle

/-- A frame leaves only over a connection, and one more reply is owed then. -/
theorem exists_link_of_sendFrame (h : s.sendFrame frame = (.ok (), u)) :
    (∃ link, u.manager.link = some link) ∧
      u.manager.owedReplies = s.manager.owedReplies + 1 := by
  unfold sendFrame at h
  split at h
  · cases h
  · split at h
    · cases h
    · cases h
      exact ⟨⟨_, rfl⟩, rfl⟩

/-- Reading a reply is reading one frame, and takes the time of its reads. -/
theorem exists_awaits_of_readReply {link : Link} (hlink : s.manager.link = some link)
    (hlimit : link.inbound.timeout = some limit) :
    ∃ taken spans reply t, s.readReply = (reply.map Prod.fst, t) ∧
      s.Awaits limit taken spans reply t := by
  obtain ⟨taken, stop, inbound, hreads, hreport⟩ :=
    Frame.exists_receipt_of_read Response.ofBytes { link.inbound with now := s.now }
  obtain ⟨spans, hpaces, hwaits⟩ := hreads.exists_paces
  obtain ⟨hinbound, hreceipt⟩ := hreport .blocking
  -- From here on the read is known by its result only, so that the report can be taken by cases.
  rcases hread : Frame.read .blocking Response.ofBytes { link.inbound with now := s.now } with
    ⟨reply, later⟩
  rw [hread] at hinbound hreceipt
  dsimp only at hinbound hreceipt
  subst hinbound
  have hawaits {t : Channel} (hnow : t.now = later.now) : s.Awaits limit taken spans reply t := by
    refine ⟨⟨link, stop, later, hlink, hreads, hpaces, hreceipt, hnow⟩, ?_, ?_, ?_, hwaits, ?_⟩
    · rw [hnow]
      exact hpaces.elapsed_eq
    · exact hpaces.le_limit hlimit
    · rw [hnow]
      exact hpaces.elapsed_le hlimit
    · intro hreply
      exact (hreceipt.timedOut_iff.1 hreply).2
  have hsame : link.read Response.ofBytes s.world =
      (reply, { link with inbound := later }, { s.world with now := later.now }) :=
    congrArg (fun r => (r.1, { link with inbound := r.2 }, { s.world with now := r.2.now })) hread
  unfold readReply
  rw [hlink]
  dsimp only
  rw [hsame]
  cases reply with
  | error e => exact ⟨taken, spans, .error e, _, rfl, hawaits rfl⟩
  | ok reply => exact ⟨taken, spans, .ok reply, _, rfl, hawaits rfl⟩

/-- What a round trip waits for once its frame has left is the one reply that is owed. Without late
replies there is no other round of the loop. -/
theorem exists_awaits_of_roundTrip (hs : s.Limited) (howed : s.manager.owedReplies = 0)
    (hsend : s.sendFrame frame = (.ok (), u)) :
    ∃ taken spans reply t, s.roundTrip frame = (reply.map Prod.fst, t) ∧
      u.Awaits s.manager.config.ioTimeout taken spans reply t := by
  obtain ⟨⟨link, hlink⟩, hdue⟩ := exists_link_of_sendFrame hsend
  have hsent := hs.sendFrame frame
  obtain ⟨_, _, _, hmanager⟩ := s.manager_sendFrame frame
  rw [hsend] at hsent hmanager
  have hconfig : u.manager.config = s.manager.config := by rw [hmanager]
  have hlimit := hsent link hlink
  rw [hconfig] at hlimit
  obtain ⟨taken, spans, reply, t, hread, hawaits⟩ := exists_awaits_of_readReply hlink hlimit
  have hone : u.manager.owedReplies - 1 = 0 := by omega
  unfold roundTrip
  rw [hsend]
  dsimp only
  rw [hone, awaitReply, hread]
  cases reply with
  | error e => exact ⟨taken, spans, .error e, t, rfl, hawaits⟩
  | ok reply =>
    exact ⟨taken, spans, .ok reply, ((t.owe 0).touch.record .answered), rfl, hawaits.exists_reads,
      hawaits.elapsed_eq, hawaits.le_limit, hawaits.elapsed_le, hawaits.waits_le,
      hawaits.nothing_taken⟩

/-- A command that finds its connection returns with the result of its round trip, at once unless
the connection is lost. -/
theorem now_execute {command : Command} {result : Except ChannelError Response}
    (hstate : s.manager.state = .connected) (hencode : Frame.encode (.command command) = .ok frame)
    (hround : s.roundTrip frame = (result, t))
    (hkeeps : ∀ e, result = .error e → e.isLoss = false) :
    (s.execute command).2.now = t.now := by
  have hensure : s.ensureLink = (true, s) := if_pos (LinkState.isConnected_iff.2 hstate)
  unfold execute
  rw [hencode]
  dsimp only
  unfold exchange
  rw [hensure]
  dsimp only
  rw [hround]
  cases result with
  | ok reply => rfl
  | error e =>
    have hloss := hkeeps e rfl
    dsimp only
    split
    · rfl
    · rw [if_neg (by rw [hloss]; exact Bool.false_ne_true)]
      exact now_fail _

end Awaits

end Channel

namespace Scenario

open Channel

variable (sc : Scenario)

/-- Between operations the connection has the limit that was configured. There is none at the
beginning. -/
theorem limited_after (operations : List Operation) : (sc.after operations).Limited :=
  sc.stable_after stable_limited (limited_of_none rfl) operations

/-- A command that finds its connection, and whose frame has left, waits once for each piece in
which its reply comes. The configured limit bounds each of these waits, and so there are as many
limits at most as bytes that come, and one more for a byte that does not. It bounds all of the time
until the command returns if there is only one wait, and if time is up before any byte has come. -/
theorem waiting_after (operations : List Operation) (command : Command) {frame : List UInt8}
    {u : Channel} (hstate : (sc.after operations).manager.state = .connected)
    (howed : (sc.after operations).manager.owedReplies = 0)
    (hencode : Frame.encode (.command command) = .ok frame)
    (hsend : (sc.after operations).sendFrame frame = (.ok (), u)) :
    ∃ taken spans reply t, (sc.after operations).roundTrip frame = (reply.map Prod.fst, t) ∧
      u.Awaits sc.config.ioTimeout taken spans reply t ∧
      (t.now - u.now).nanos ≤ sc.config.ioTimeout.nanos * (taken.length + 1) ∧
      (Inbound.waits spans ≤ 1 → t.now - u.now ≤ sc.config.ioTimeout) ∧
      (reply = .error .timedOut → t.now - u.now ≤ sc.config.ioTimeout) ∧
      ((∀ e, reply = .error e → e.isLoss = false) →
        ((sc.after operations).execute command).2.now = t.now) := by
  have hconfig : (sc.after operations).manager.config = sc.config :=
    (sc.reaches_after operations).config_eq
  obtain ⟨taken, spans, reply, t, hround, hawaits⟩ :=
    exists_awaits_of_roundTrip (sc.limited_after operations) howed hsend
  rw [hconfig] at hawaits
  refine ⟨taken, spans, reply, t, hround, hawaits, ?_, hawaits.elapsed_le_limit, ?_, ?_⟩
  · exact Nat.le_trans hawaits.elapsed_le (Nat.mul_le_mul_left _ hawaits.waits_le)
  · intro hreply
    have hone := hawaits.waits_le
    rw [hawaits.nothing_taken hreply] at hone
    exact hawaits.elapsed_le_limit hone
  · intro hkeeps
    apply now_execute hstate hencode hround
    intro e he
    cases reply with
    | ok reply => cases he
    | error failure =>
      cases he
      exact hkeeps e rfl

/-- A peer that answers in two pieces, header and body, each of them well within the limit. -/
def piecemeal : Scenario where
  config := { ioTimeout := .ofSeconds 1, heartbeatInterval := none }
  dials :=
    let body := utf8 ((Json.obj (Response.succeed .null).members).format .compact 0)
    let script : PeerScript := {
      reads := [.data (.ofMillis 600) (Frame.header body.length), .data (.ofMillis 600) body] }
    [.accepted .zero script]

/-- The frame that asks for a sign of life. -/
def pingFrame : List UInt8 :=
  Frame.ofBody (utf8 ((Json.obj Command.ping.members).format .compact 0))

/-- The frame is the one that the command for a sign of life is encoded as. -/
theorem encode_ping : Frame.encode (.command .ping) = .ok pingFrame := rfl

/-- Over the connection in two pieces the frame leaves, as nothing is said to hinder it. -/
theorem exists_sendFrame_ping : ∃ u,
    (piecemeal.after [.connect]).sendFrame pingFrame = (.ok (), u) := by
  have hsent : ((piecemeal.after [.connect]).sendFrame pingFrame).1.isOk = true := by
    decide +kernel
  rcases hsend : (piecemeal.after [.connect]).sendFrame pingFrame with ⟨e | _, u⟩
  · rw [hsend] at hsent
    cases hsent
  · exact ⟨u, rfl⟩

/-- A reply in two pieces is waited for as told: the manager is connected, owes nothing, and its
frame leaves. -/
theorem waiting_after_pieces :
    (piecemeal.after [.connect]).manager.state = .connected ∧
    (piecemeal.after [.connect]).manager.owedReplies = 0 ∧
    Frame.encode (.command .ping) = .ok pingFrame ∧
    ∃ u, (piecemeal.after [.connect]).sendFrame pingFrame = (.ok (), u) ∧
      ∃ taken spans reply t,
        (piecemeal.after [.connect]).roundTrip pingFrame = (reply.map Prod.fst, t) ∧
        u.Awaits piecemeal.config.ioTimeout taken spans reply t := by
  have hstate : (piecemeal.after [.connect]).manager.state = .connected := by decide +kernel
  have howed : (piecemeal.after [.connect]).manager.owedReplies = 0 := by decide +kernel
  obtain ⟨u, hsend⟩ := exists_sendFrame_ping
  obtain ⟨taken, spans, reply, t, hround, hawaits, -⟩ :=
    piecemeal.waiting_after [.connect] .ping hstate howed encode_ping hsend
  exact ⟨hstate, howed, encode_ping, u, hsend, taken, spans, reply, t, hround, hawaits⟩

/-- The limit is one second, and the reply in two pieces is taken for a success after more than
that. No other frame was sent, and no other connection looked for. -/
theorem piecemeal_outlasts_limit :
    let s := piecemeal.after [.connect]
    s.manager.state = .connected ∧ s.manager.owedReplies = 0 ∧
      .zero < piecemeal.config.ioTimeout ∧ Frame.encode (.command .ping) = .ok pingFrame ∧
      ∃ u outcome t, s.sendFrame pingFrame = (.ok (), u) ∧ s.execute .ping = (outcome, t) ∧
        outcome.success = true ∧ t.world.tally.offers = [(0, pingFrame)] ∧
        t.world.tally.lookups = s.world.tally.lookups ∧
        piecemeal.config.ioTimeout < t.now - u.now := by
  intro s
  obtain ⟨u, hsend⟩ := exists_sendFrame_ping
  have hstate : s.manager.state = .connected := by decide +kernel
  have howed : s.manager.owedReplies = 0 := by decide +kernel
  have hpositive : .zero < piecemeal.config.ioTimeout := by decide +kernel
  have hsuccess : (s.execute .ping).1.success = true := by decide +kernel
  have hoffers : (s.execute .ping).2.world.tally.offers = [(0, pingFrame)] := by decide +kernel
  have hlookups : (s.execute .ping).2.world.tally.lookups = s.world.tally.lookups := by
    decide +kernel
  have hlong : piecemeal.config.ioTimeout <
      (s.execute .ping).2.now - (s.sendFrame pingFrame).2.now := by decide +kernel
  rw [hsend] at hlong
  exact ⟨hstate, howed, hpositive, encode_ping, u, _, _, hsend, rfl, hsuccess, hoffers, hlookups,
    hlong⟩

end Scenario

end CommandChannel
