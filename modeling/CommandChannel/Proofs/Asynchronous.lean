import CommandChannel.Proofs.Carriers
import CommandChannel.Proofs.Streams

/-!
# Blocking and asynchronous transfers

A blocking reader or writer repeats its reads and writes itself, an asynchronous one leaves that to
a carrier, and both report what goes wrong in their own way. On steady streams they transfer the
same bytes and report the same, up to the text of an early end and to a broken pipe, which only a
blocking reader takes for the loss of the connection.
-/

namespace CommandChannel

namespace Frame

open Inbound (Stop)

variable {α : Type} {carrier : Carrier} {s : Inbound} {text : String}

/-- Reports to an asynchronous reader whose carrier has a text of its own for an early end. -/
def ReadReport.awaited (text : String) : ReadReport :=
  { ReadReport.asynchronous with ended := .lost text }

/-- A carrier that fills a number of bytes reports as a reader that was told of its text. What was
read before does not matter, since no report of an asynchronous reader counts bytes. -/
theorem readExactlyVia_eq {want : Nat}
    (h : carrier.readExact want s = ((s.fill want).1.awaited text, (s.fill want).2))
    (before : Nat) :
    readExactlyVia carrier want s = readExactly (.awaited text) want before s := by
  unfold readExactlyVia readExactly
  rw [h]
  rcases s.fill want with ⟨_ | _ | _, t⟩ <;> rfl

/-- A carrier that fills the header of a frame and its body reads the frame. Of the body this is
needed only where the header announces one, and for just the length that it announces. -/
theorem readVia_eq (format : Format α)
    (hheader : carrier.readExact headerSize s =
      ((s.fill headerSize).1.awaited text, (s.fill headerSize).2))
    (hbody : ∀ header t length, s.fill headerSize = (.full header, t) →
      bodyLength header = .ok length →
      carrier.readExact length t = ((t.fill length).1.awaited text, (t.fill length).2)) :
    readVia carrier format s =
      ((read (.awaited text) format s).1.map Prod.fst, (read (.awaited text) format s).2) := by
  unfold readVia read readBody
  rw [readExactlyVia_eq hheader 0]
  rcases hfill : s.fill headerSize with ⟨header | _ | _, t⟩
  · have hexactly : readExactly (.awaited text) headerSize 0 s = (.ok header, t) := by
      rw [readExactly, hfill]
    rw [hexactly]
    dsimp only
    cases hlength : bodyLength header with
    | error e => rfl
    | ok length =>
      dsimp only
      rw [readExactlyVia_eq (hbody header t length hfill hlength) headerSize]
      rcases readExactly (.awaited text) length headerSize t with ⟨_ | body, u⟩
      · rfl
      · dsimp only
        cases parse format body <;> rfl
  all_goals
    rw [readExactly, hfill]
    rfl

/-- The asynchronous reader is one whose carrier repeats its reads. So what is proved of all lawful
carriers holds of it. -/
theorem readVia_repeating (format : Format α) (s : Inbound) :
    readVia .repeating format s =
      ((read .asynchronous format s).1.map Prod.fst, (read .asynchronous format s).2) :=
  readVia_eq format rfl fun _ _ _ _ _ => rfl

/-- The asynchronous writer is one whose carrier repeats its writes. So what is proved of all lawful
carriers holds of it as well. -/
theorem writeVia_repeating (payload : Payload) (s : Outbound) :
    writeVia .repeating payload s = write .asynchronous payload s := by
  unfold writeVia write
  cases encode payload with
  | error e => rfl
  | ok frame =>
    dsimp only [writeEncoded, Carrier.repeating]
    rcases s.drain frame with ⟨_ | _ | _, t⟩
    · dsimp only [Outbound.Drain.awaited]
      rcases t.flush with ⟨_ | _, u⟩ <;> rfl
    all_goals rfl

/-- From a steady stream every lawful carrier reads a frame as repeated reads do. Only the text of
an early end is the carrier's own. -/
theorem exists_readVia_eq (hlaws : carrier.Lawful) (format : Format α) (h : s.Steady) :
    ∃ text, readVia carrier format s =
      ((read (.awaited text) format s).1.map Prod.fst, (read (.awaited text) format s).2) := by
  obtain ⟨text, hheader⟩ := h.readExact_eq hlaws headerSize
  obtain ⟨taken, stop, hreads, -⟩ := s.exists_reads_of_fill headerSize
  have ht := (h.reads hreads).1
  rcases hfill : s.fill headerSize with ⟨header | _ | _, t⟩ <;> rw [hfill] at hheader ht
  · cases hlength : bodyLength header with
    | error e =>
      refine ⟨text, readVia_eq format (by rw [hheader, hfill]) ?_⟩
      intro header' t' length hfill' hlength'
      cases hfill.symm.trans hfill'
      cases hlength.symm.trans hlength'
    | ok length =>
      obtain ⟨text, hbody⟩ := ht.readExact_eq hlaws length
      refine ⟨text, readVia_eq format (by rw [hheader, hfill]; rfl) ?_⟩
      intro header' t' length' hfill' hlength'
      cases hfill.symm.trans hfill'
      cases hlength.symm.trans hlength'
      exact hbody
  all_goals
    refine ⟨text, readVia_eq format (by rw [hheader, hfill]) ?_⟩
    intro header' t' length hfill'
    cases hfill.symm.trans hfill'

/-- What is reported of a frame whose reads found all bytes depends on the bytes alone. So readers
with different reports agree on such a frame. -/
theorem Receipt.complete_eq {report : ReadReport} {format : Format α} {taken : List UInt8}
    {result : Except ChannelError (α × Nat)} (h : Receipt report format taken .complete result) :
    result = (bodyLength (taken.take headerSize)).bind fun _ =>
      (parse format (taken.drop headerSize)).map fun v => (v, taken.length) := by
  cases h with
  | refused hheader hlength =>
    rw [List.take_of_length_le hheader.le, hlength]
    rfl
  | whole hheader hlength =>
    rw [← hheader, List.take_left, List.drop_left, hlength, List.length_append]
    rfl

/-- An asynchronous reader takes the same failures for a loss of the connection, except for a broken
pipe. -/
theorem failed_asynchronous {error : IoError} (h : error.kind ≠ .brokenPipe) (transferred : Nat) :
    ReadReport.asynchronous.failed error transferred =
      if breaksReading error.kind then .lost error.text else .io error := by
  obtain ⟨kind, text⟩ := error
  cases kind with
  | brokenPipe => exact absurd rfl h
  | _ => rfl

/-- Of a failure that is no matter of time a blocking reader reports what it is, and no count of
bytes that were transferred before it. -/
theorem readFault_of_isLasting {error : IoError} (h : error.kind.isLasting = true)
    (transferred : Nat) :
    readFault error transferred =
      if breaksReading error.kind then .lost error.text else .io error := by
  rw [readFault, (IoKind.isLasting_iff.1 h).2]
  rfl

/-- What a blocking reader and an asynchronous one report of reads that came to the same end. -/
inductive SameReading : Stop → Except ChannelError α → Except ChannelError α → Prop
  /-- All bytes came. -/
  | complete (result : Except ChannelError α) : SameReading .complete result result
  /-- The stream ended. Its end has a text of its own in each report. -/
  | ended (text : String) :
      SameReading .ended (.error (.lost "peer closed the connection")) (.error (.lost text))
  /-- A read failed. -/
  | failed {error : IoError} (hkind : error.kind ≠ .brokenPipe) (e : ChannelError) :
      SameReading (.failed error) (.error e) (.error e)
  /-- A pipe was broken, which is a loss of the connection only to the blocking reader. -/
  | brokenPipe {error : IoError} (hkind : error.kind = .brokenPipe) :
      SameReading (.failed error) (.error (.lost error.text)) (.error (.io error))

/-- Two readers of the same bytes succeed together, and with the same value. -/
theorem SameReading.ok_iff {stop : Stop} {blocking awaited : Except ChannelError α}
    (h : SameReading stop blocking awaited) (v : α) : awaited = .ok v ↔ blocking = .ok v := by
  cases h with
  | complete => rfl
  | ended => exact ⟨nofun, nofun⟩
  | failed => exact ⟨nofun, nofun⟩
  | brokenPipe => exact ⟨nofun, nofun⟩

/-- What two readers report of a frame by the same reads. The stop tells which case it is, and no
read fails for want of time. -/
theorem Receipt.sameReading {format : Format α} {taken : List UInt8} {stop : Stop}
    {blocking awaited : Except ChannelError (α × Nat)}
    (h : Receipt .blocking format taken stop blocking)
    (h' : Receipt (.awaited text) format taken stop awaited)
    (hlasting : ∀ error, stop = .failed error → error.kind.isLasting = true) :
    SameReading stop (blocking.map Prod.fst) (awaited.map Prod.fst) := by
  cases stop with
  | complete =>
    rw [h'.complete_eq, ← h.complete_eq]
    exact .complete _
  | ended =>
    cases h
    cases h'
    exact .ended text
  | failed error =>
    cases h
    cases h'
    dsimp only [ReadReport.blocking, ReadReport.awaited]
    rw [readFault_of_isLasting (hlasting error rfl)]
    by_cases hkind : error.kind = .brokenPipe
    · obtain ⟨kind, text⟩ := error
      cases hkind
      exact .brokenPipe rfl
    · rw [failed_asynchronous hkind]
      exact .failed hkind _

/-- What a blocking writer and an asynchronous one report of the same frame. -/
inductive SameWriting : Except ChannelError Nat → Except ChannelError Nat → Prop
  | same (result : Except ChannelError Nat) : SameWriting result result
  /-- A write failed. The text may be another one. -/
  | failed {error error' : IoError} (hkind : error'.kind = error.kind) :
      SameWriting (.error (.io error)) (.error (.io error'))

/-- Of a failure that is no matter of time a blocking writer reports what it is. -/
theorem writeFault_of_isLasting {error : IoError} (h : error.kind.isLasting = true)
    (transferred : Nat) : writeFault error transferred = .io error := by
  rw [writeFault, (IoKind.isLasting_iff.1 h).2]
  rfl

/-- To a steady stream every lawful carrier writes a frame as a blocking writer does. It leaves the
stream the same, and its report differs at most in the text of a failure. -/
theorem writeVia_sameWriting {s : Outbound} (hlaws : carrier.Lawful) (payload : Payload)
    (h : s.Steady) :
    (writeVia carrier payload s).2 = (write .blocking payload s).2 ∧
      SameWriting (write .blocking payload s).1 (writeVia carrier payload s).1 := by
  unfold writeVia write
  cases encode payload with
  | error e => exact ⟨rfl, .same _⟩
  | ok frame =>
    obtain ⟨text, hwrite⟩ := h.writeAll_eq hlaws frame
    obtain ⟨ht, hlasting⟩ := h.drain frame
    unfold writeEncoded
    dsimp only
    rw [hwrite]
    rcases hdrain : s.drain frame with ⟨_ | count | ⟨error, count⟩, t⟩ <;>
      rw [hdrain] at ht hlasting
    · dsimp only [Outbound.Drain.awaited]
      rw [hlaws.flush_eq]
      rcases hflush : t.flush with ⟨error | _, u⟩
      · dsimp only [WriteReport.blocking]
        rw [writeFault_of_isLasting (ht.flush hflush)]
        exact ⟨rfl, .same _⟩
      · exact ⟨rfl, .same _⟩
    · exact ⟨rfl, .failed rfl⟩
    · dsimp only [WriteReport.blocking, Outbound.Drain.awaited]
      rw [writeFault_of_isLasting (hlasting error count rfl)]
      exact ⟨rfl, .same _⟩

/-- Blocking and asynchronous transfers agree on steady streams, whatever lawful carrier is used.
Where the asynchronous reader also waits for what is not ready yet, both readers take the same bytes
and leave the same, one succeeds with a value exactly if the other does, and their failures are the
same up to the text of an early end and to a broken pipe. Both writers leave the stream with the
same bytes taken and report the same size, or failures of the same kind. -/
theorem transfers_agree (hlaws : carrier.Lawful) :
    (∀ (α : Type) (format : Format α) (t : Inbound), t.Steady →
      let s : Inbound := { t with events := t.events.filter (· != .pending) }
      let blocking := read .blocking format s
      let awaited := readVia carrier format t
      ∃ taken stop, s.Reads taken stop blocking.2 ∧ t.Reads taken stop awaited.2 ∧
        awaited.2.Steady ∧
        blocking.2 = { awaited.2 with events := awaited.2.events.filter (· != .pending) } ∧
        (∀ v, awaited.1 = .ok v ↔ blocking.1.map Prod.fst = .ok v) ∧
        SameReading stop (blocking.1.map Prod.fst) awaited.1) ∧
    ∀ (payload : Payload) (s : Outbound), s.Steady →
      (writeVia carrier payload s).2 = (write .blocking payload s).2 ∧
        SameWriting (write .blocking payload s).1 (writeVia carrier payload s).1 := by
  refine ⟨?_, fun payload s hs => writeVia_sameWriting hlaws payload hs⟩
  intro α format t ht s blocking awaited
  obtain ⟨text, hvia⟩ := exists_readVia_eq hlaws format ht
  obtain ⟨taken, stop, u, hreads, hreport⟩ := exists_receipt_of_read format t
  obtain ⟨hrest, hreceipt⟩ := hreport .blocking
  obtain ⟨hrest', hreceipt'⟩ := hreport (.awaited text)
  obtain ⟨hu, hlasting⟩ := ht.reads hreads
  -- what the blocking reader does without the pending events it would do with them
  have hs : s = t.quiet := ht.quiet_eq.symm
  have hblocking : blocking = ((read .blocking format t).1, u.quiet) := by
    rw [← hrest, ← read_quiet, ← hs]
  have hawaited : awaited = ((read (.awaited text) format t).1.map Prod.fst, u) := by
    rw [← hrest']
    exact hvia
  have hsame := hreceipt.sameReading hreceipt' hlasting
  rw [hblocking, hawaited, hs]
  exact ⟨taken, stop, hreads.quiet, hreads, hu, hu.quiet_eq, hsame.ok_iff, hsame⟩

/-- The case of frames that come in pieces. A carrier that repeats its reads and writes is lawful,
and both streams are steady: the one to read holds a frame cut in three, with nothing ready in
between, and the one to write breaks after three bytes. -/
theorem transfers_agree_cut :
    let t : Inbound :=
      { events := [.pending, .data .zero [0, 0], .pending, .pending, .data .zero [0, 2, 0x7b],
          .data .zero [0x7d], .pending] }
    let s : Outbound := { events := [.accept 3, .fail IoKind.brokenPipe.error], flushes := [.done] }
    Carrier.repeating.Lawful ∧ t.Steady ∧ s.Steady ∧
      (readVia .repeating Json.ofBytes t).1 = .ok (.obj []) ∧
      SameWriting (write .blocking (.value (.obj [])) s).1
        (writeVia .repeating (.value (.obj [])) s).1 := by
  intro t s
  have ht : t.Steady := ⟨rfl, rfl, by decide⟩
  have hs : s.Steady := ⟨by decide, by decide⟩
  obtain ⟨hread, hwrite⟩ := transfers_agree Carrier.lawful_repeating
  obtain ⟨taken, stop, -, -, -, -, hok, -⟩ := hread Json Json.ofBytes t ht
  refine ⟨Carrier.lawful_repeating, ht, hs, (hok (.obj [])).2 ?_, (hwrite _ s hs).2⟩
  have hdelivers : Inbound.Delivers
      { t with events := t.events.filter (· != .pending) } (ofBody [0x7b, 0x7d] ++ []) := by
    refine ⟨rfl, rfl, ?_, by decide⟩
    have hevents : t.events.filter (· != .pending) =
        [.data .zero [0, 0], .data .zero [0, 2, 0x7b], .data .zero [0x7d]] := rfl
    dsimp only
    simp [hevents, ReadEvent.Arrives, t]
  obtain ⟨u, hblocking, -⟩ :=
    read_of_delivers .blocking Json.ofBytes (by decide) (by decide) hdelivers
  rw [hblocking]
  rfl

end Frame

end CommandChannel
