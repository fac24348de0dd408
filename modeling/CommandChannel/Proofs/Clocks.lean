import CommandChannel.Proofs.Deliveries
import CommandChannel.Proofs.Fallback
import CommandChannel.Proofs.Readings

/-!
# Clocks

Time passes only where something is waited for: a read, a write, or an attempt to connect. A single
read or write waits for its limit at most, and no clock ever runs backwards.
-/

namespace CommandChannel

namespace Duration

/-- A moment is not later than itself. What takes no time does not go back in it. -/
protected theorem le_refl (a : Duration) : a ≤ a := Nat.le_refl _

/-- Moments are in order, so that what never goes back step by step does not go back at all. -/
protected theorem le_trans {a b c : Duration} (hab : a ≤ b) (hbc : b ≤ c) : a ≤ c :=
  Nat.le_trans hab hbc

/-- A moment is not moved back by any span, also if the range of moments is used up. -/
theorem le_add (a b : Duration) : a ≤ a + b := by
  rw [le_iff, nanos_add]
  exact Nat.le_min.2 ⟨Nat.le_add_right _ _, a.nanos_le⟩

/-- The empty span moves nothing, since no moment is out of range. -/
@[simp] theorem add_zero (a : Duration) : a + zero = a := by
  apply Duration.ext
  rw [nanos_add]
  exact Nat.min_eq_left a.nanos_le

/-- The later of two moments has the greater length. Dates are compared by their lengths through
it. -/
theorem nanos_max (a b : Duration) : (max a b).nanos = max a.nanos b.nanos := by
  change (if a ≤ b then b else a).nanos = _
  split
  · rename_i h
    exact (Nat.max_eq_right h).symm
  · rename_i h
    exact (Nat.max_eq_left (Nat.le_of_not_le h)).symm

/-- No span is shorter than the empty one, and no moment earlier than the first. -/
theorem zero_le (a : Duration) : zero ≤ a := Nat.zero_le _

/-- Moving on by several spans does not move back. This is the order of moments along a whole run of
waits. -/
theorem le_foldl_add (a : Duration) (spans : List Duration) : a ≤ spans.foldl (· + ·) a := by
  induction spans generalizing a with
  | nil => exact Duration.le_refl a
  | cons span spans ih => exact Duration.le_trans (a.le_add span) (ih (a + span))

end Duration

namespace Inbound

variable {s t u : Inbound} {want : Nat} {r : Except IoError (List UInt8)}

/-- A read past the buffer waits for a while, and for the limit at most if there is one. The limit
itself stays as it is. -/
theorem exists_wait_of_fetch (h : s.fetch want = (r, t)) :
    t.timeout = s.timeout ∧ ∃ span, t.now = s.now + span ∧ ∀ limit ∈ s.timeout, span ≤ limit := by
  have hatOnce : s.now = s.now + .zero := s.now.add_zero.symm
  have hnothing : ∀ limit ∈ s.timeout, Duration.zero ≤ limit := fun limit _ => limit.zero_le
  rcases fetch_cases h with heq | ⟨before, event, rest, -, hfetches⟩
  · cases heq
    exact ⟨rfl, .zero, hatOnce, hnothing⟩
  · cases hfetches with
    | @chunk delay _ _ hintime =>
      refine ⟨rfl, delay, rfl, fun limit hlimit => ?_⟩
      by_contra hlong
      exact hintime limit hlimit ⟨Nat.lt_of_le_of_lt limit.zero_le (Nat.lt_of_not_le hlong),
        Nat.le_of_not_le hlong⟩
    | @late limit _ _ _ hlimit _ =>
      refine ⟨rfl, limit, rfl, fun other hother => ?_⟩
      cases hlimit.symm.trans hother
      exact limit.le_refl
    | timeout =>
      refine ⟨rfl, s.timeout.getD .zero, rfl, fun limit hlimit => ?_⟩
      rw [hlimit]
      exact limit.le_refl
    | eof => exact ⟨rfl, .zero, hatOnce, hnothing⟩
    | fail => exact ⟨rfl, .zero, hatOnce, hnothing⟩

/-- A read waits for a while, and for the limit at most if there is one. A read that finds bytes in
the buffer does not wait at all. -/
theorem exists_wait_of_read (h : s.read want = (r, t)) :
    t.timeout = s.timeout ∧ ∃ span, t.now = s.now + span ∧ ∀ limit ∈ s.timeout, span ≤ limit := by
  cases draws_of_read h with
  | buffered => exact ⟨rfl, .zero, s.now.add_zero.symm, fun limit _ => limit.zero_le⟩
  | direct _ hfetch => exact exists_wait_of_fetch hfetch
  | refilled _ hfetch =>
    obtain ⟨htimeout, span, hnow, hle⟩ := exists_wait_of_fetch hfetch
    exact ⟨htimeout, span, hnow, hle⟩
  | failed _ hfetch => exact exists_wait_of_fetch hfetch

/-- Reading does not go back in time, as it waits for a while or not at all. -/
theorem now_le_of_read (h : s.read want = (r, t)) : s.now ≤ t.now := by
  obtain ⟨-, span, hnow, -⟩ := exists_wait_of_read h
  rw [hnow]
  exact s.now.le_add span

/-- Reads that take bytes do not go back in time, by induction on these reads. -/
theorem Passes.now_le {taken : List UInt8} (h : s.Passes taken t) : s.now ≤ t.now := by
  induction h with
  | refl s => exact s.now.le_refl
  | chunk hread _ _ ih => exact Duration.le_trans (now_le_of_read hread) ih
  | interrupted hread _ _ ih => exact Duration.le_trans (now_le_of_read hread) ih

/-- A series of reads does not go back in time, whatever stops it. -/
theorem Reads.now_le {taken : List UInt8} {stop : Stop} (h : s.Reads taken stop t) :
    s.now ≤ t.now := by
  obtain ⟨u, hpasses, hstops⟩ := h
  refine Duration.le_trans hpasses.now_le ?_
  cases hstops with
  | complete => exact Duration.le_refl _
  | ended _ hread => exact now_le_of_read hread
  | failed _ hread _ => exact now_le_of_read hread

end Inbound

namespace Outbound

variable {s t u : Outbound} {bytes taken left : List UInt8} {halt : Halt}

/-- Waiting out a limit does not go back in time. Without a limit no time passes. -/
theorem now_le_waitOut (s : Outbound) : s.now ≤ s.waitOut.now := s.now.le_add _

/-- Writing does not go back in time: it is over at once, or when its limit is over. -/
theorem now_le_write (s : Outbound) (bytes : List UInt8) : s.now ≤ (s.write bytes).2.now := by
  unfold write
  split
  · exact s.now.le_refl
  · split
    · exact s.now.le_refl
    · exact s.now.le_refl
    · rename_i rest _
      exact now_le_waitOut { s with events := rest }
    · exact s.now.le_refl

/-- Flushing does not go back in time: it is over at once, or when its limit is over. -/
theorem now_le_flush (s : Outbound) : s.now ≤ s.flush.2.now := by
  unfold flush
  split
  · exact s.now.le_refl
  · exact s.now.le_refl
  · rename_i rest _
    exact now_le_waitOut { s with flushes := rest }
  · exact s.now.le_refl

/-- Writes that take bytes do not go back in time, by induction on these writes. -/
theorem Passes.now_le (h : s.Passes left taken t) : s.now ≤ t.now := by
  have hwrites {v w : Outbound} {bytes : List UInt8} {result : Except IoError Nat}
      (hwrite : v.write bytes = (result, w)) : v.now ≤ w.now := by
    have hle := v.now_le_write bytes
    rwa [hwrite] at hle
  induction h with
  | refl s => exact s.now.le_refl
  | chunk hwrite _ _ ih => exact Duration.le_trans (hwrites hwrite) ih
  | interrupted hwrite _ _ _ ih => exact Duration.le_trans (hwrites hwrite) ih

/-- What stops a writer does not go back in time, be it a write or the flush. -/
theorem Halts.now_le (h : s.Halts left halt t) : s.now ≤ t.now := by
  have hflushed := s.now_le_flush
  have hwritten := s.now_le_write left
  cases h with
  | flushed hflush | unflushed hflush => rwa [hflush] at hflushed
  | refused _ hwrite | failed _ hwrite _ => rwa [hwrite] at hwritten

end Outbound

namespace Frame

/-- Reading a frame takes its time, and none back, for every report and format. -/
theorem now_le_read {α : Type} (report : ReadReport) (format : Format α) (s : Inbound) :
    s.now ≤ (read report format s).2.now := by
  obtain ⟨taken, stop, t, hreads, hreport⟩ := exists_receipt_of_read format s
  rw [(hreport report).1]
  exact hreads.now_le

/-- Writing a frame takes its time, and none back, for every report. -/
theorem now_le_writeEncoded (report : WriteReport) (frame : List UInt8) (s : Outbound) :
    s.now ≤ (writeEncoded report frame s).2.now := by
  obtain ⟨taken, left, halt, t, rfl, hdelivers⟩ := s.exists_delivers frame
  rw [writeEncoded_of_delivers report hdelivers]
  obtain ⟨u, hpasses, hhalts⟩ := hdelivers
  exact Duration.le_trans hpasses.now_le hhalts.now_le

end Frame

namespace Link

/-- Reading a frame from a connection leaves the world at the same moment or a later one. -/
theorem now_le_read {α : Type} (format : Frame.Format α) (link : Link) (w : World) :
    w.now ≤ (link.read format w).2.2.now :=
  Frame.now_le_read .blocking format { link.inbound with now := w.now }

/-- Writing a frame to a connection leaves the world at the same moment or a later one. -/
theorem now_le_writeEncoded (frame : List UInt8) (link : Link) (w : World) :
    w.now ≤ (link.writeEncoded frame w).2.2.now := by
  unfold writeEncoded recordWrite
  simp only
  split <;> exact Frame.now_le_writeEncoded .blocking frame { link.outbound with now := w.now }

/-- Writing to a connection leaves the world at the same moment or a later one, also if what is
written has no frame. -/
theorem now_le_write (payload : Payload) (link : Link) (w : World) :
    w.now ≤ (link.write payload w).2.2.now := by
  unfold write
  split
  · exact w.now.le_refl
  · rename_i frame _
    have hle := now_le_writeEncoded frame link w
    split <;> rename_i heq <;> rwa [heq] at hle

/-- Trying addresses takes its time: connecting leaves the world at the same moment or a later
one. -/
theorem now_le_connect (addrs : List SocketAddr) (limit : Duration) (w : World) :
    w.now ≤ (connect addrs limit w).2.now := by
  obtain ⟨tried, result, u, hconnect, hdials, -⟩ :=
    settles_connectAfter (.io noAddress) limit addrs w
  rw [connect, hconnect, hdials.now_eq]
  split
  · exact w.now.le_refl
  · exact w.now.le_foldl_add _

end Link

end CommandChannel
