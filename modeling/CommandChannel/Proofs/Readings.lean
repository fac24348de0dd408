import CommandChannel.Frame.Transfer
import Mathlib.Data.List.TakeWhile
import Mathlib.Tactic.Common

/-!
# What is read and how a read ends

Reads take bytes off a stream one after the other until there are enough, or until one of them finds
the end of the stream or fails. Of such a series the bytes that it took are known, and how it came
to its end. Filling a number of bytes is a series of reads, and so is the read of a frame, header
and body together; what is reported of the frame depends on nothing else.
-/

namespace CommandChannel

namespace Inbound

variable {s t u : Inbound} {want : Nat}

/-- After events that are retried the stream meets an event, with others behind it, or its last
event. -/
def Meets (s : Inbound) (before : List ReadEvent) (event : ReadEvent) (rest : List ReadEvent) :
    Prop :=
  (∀ e ∈ before, e.isRetried = true) ∧
    (s.events = before ++ event :: rest ∨
      s.events = before ∧ event = s.finish.event ∧ rest = [])

/-- Where nothing is ready the next event is awaited, so that what is next is never that nothing is
ready. -/
theorem exists_meets_of_next {event : ReadEvent} {rest : List ReadEvent}
    (h : s.next = (event, rest)) : event ≠ .pending ∧ ∃ before, s.Meets before event rest := by
  have hsplit := List.takeWhile_append_dropWhile (p := (· == ReadEvent.pending)) (l := s.events)
  have hbefore : ∀ e ∈ s.events.takeWhile (· == .pending), e.isRetried = true := by
    intro e he
    have hpending : e = .pending := by simpa using List.mem_takeWhile_imp he
    rw [hpending]
    rfl
  unfold next at h
  split at h
  · rename_i hnil
    cases h
    rw [hnil, List.append_nil] at hsplit
    refine ⟨?_, _, hbefore, .inr ⟨hsplit.symm, rfl, rfl⟩⟩
    intro hpending
    have hfinish := s.finish.isRetried_eq
    rw [hpending] at hfinish
    cases hfinish
  · rename_i hcons
    cases h
    rw [hcons] at hsplit
    refine ⟨?_, _, hbefore, .inl hsplit.symm⟩
    have hhead := List.head?_dropWhile_not (· == ReadEvent.pending) s.events
    rw [hcons] at hhead
    simpa using hhead

/-- The result of a read past the buffer that meets an event, with other events behind it. -/
inductive Fetches (s : Inbound) (want : Nat) :
    ReadEvent → List ReadEvent → Except IoError (List UInt8) × Inbound → Prop
  /-- A chunk is there in time. -/
  | chunk {delay : Duration} {bytes : List UInt8} {rest : List ReadEvent}
      (hintime : ∀ limit ∈ s.timeout, ¬ (.zero < delay ∧ limit ≤ delay)) :
      Fetches s want (.data delay bytes) rest (.ok (bytes.take want),
        { s with
          events :=
            if (bytes.drop want).isEmpty then rest else .data .zero (bytes.drop want) :: rest
          now := s.now + delay })
  /-- A chunk comes only after the limit. -/
  | late {limit delay : Duration} {bytes : List UInt8} {rest : List ReadEvent}
      (hlimit : s.timeout = some limit) (hlate : .zero < delay ∧ limit ≤ delay) :
      Fetches s want (.data delay bytes) rest (.error timeUp,
        { s with events := .data (delay - limit) bytes :: rest, now := s.now + limit })
  /-- Nothing arrives in time. -/
  | timeout {rest : List ReadEvent} :
      Fetches s want .timeout rest
        (.error timeUp, { s with events := rest, now := s.now + s.timeout.getD .zero })
  /-- The peer has closed the stream. -/
  | eof {rest : List ReadEvent} : Fetches s want .eof rest (.ok [], { s with events := rest })
  /-- The read fails. -/
  | fail {error : IoError} {rest : List ReadEvent} :
      Fetches s want (.fail error) rest (.error error, { s with events := rest })

/-- A read past the buffer does what the next event says, on a stream that was not shut down. -/
theorem fetches_fetch (want : Nat) (hopen : s.closed = false) {event : ReadEvent}
    {rest : List ReadEvent} (hnext : s.next = (event, rest)) :
    Fetches s want event rest (s.fetch want) := by
  rw [fetch, if_neg (by simp [hopen]), hnext]
  cases event with
  | data delay bytes =>
    dsimp only
    split
    · rename_i hlimit
      exact .chunk (by simp [hlimit])
    · rename_i limit hlimit
      split
      · rename_i hlate
        exact .late hlimit hlate
      · rename_i hintime
        exact .chunk (by simpa [hlimit] using hintime)
  | timeout => exact .timeout
  | eof => exact .eof
  | fail error => exact .fail
  | pending => exact absurd rfl (exists_meets_of_next hnext).1

/-- The event and the events behind it determine what a read past the buffer does. -/
theorem Fetches.unique {event : ReadEvent} {rest : List ReadEvent}
    {r r' : Except IoError (List UInt8) × Inbound} (h : Fetches s want event rest r)
    (h' : Fetches s want event rest r') : r = r' := by
  cases h with
  | chunk hintime =>
    cases h' with
    | chunk => rfl
    | late hlimit hlate => exact absurd hlate (hintime _ hlimit)
  | late hlimit hlate =>
    cases h' with
    | chunk hintime => exact absurd hlate (hintime _ hlimit)
    | late hlimit' =>
      cases hlimit.symm.trans hlimit'
      rfl
  | timeout => cases h'; rfl
  | eof => cases h'; rfl
  | fail => cases h'; rfl

/-- A read past the buffer finds the end of a closed stream, and else does what is met next. -/
theorem fetch_cases {r : Except IoError (List UInt8) × Inbound} (h : s.fetch want = r) :
    r = (.ok [], s) ∨
      ∃ before event rest, s.Meets before event rest ∧ Fetches s want event rest r := by
  subst h
  cases hclosed : s.closed with
  | true => exact .inl (if_pos hclosed)
  | false =>
    rcases hnext : s.next with ⟨event, rest⟩
    obtain ⟨-, before, hmeets⟩ := exists_meets_of_next hnext
    exact .inr ⟨before, event, rest, hmeets, fetches_fetch want hclosed hnext⟩

/-- The result of a read, by what it takes from the buffer and what it fetches. -/
inductive Draws (s : Inbound) (want : Nat) : Except IoError (List UInt8) → Inbound → Prop
  /-- There are bytes in the buffer. -/
  | buffered : Draws s want (.ok (s.buffered.take want)) { s with buffered := s.buffered.drop want }
  /-- As much is asked for as the buffer would hold. -/
  | direct {r : Except IoError (List UInt8)} {t : Inbound} (hempty : s.buffered = [])
      (hfetch : s.fetch want = (r, t)) : Draws s want r t
  /-- The buffer is filled, and what does not fit stays in it. -/
  | refilled {bytes : List UInt8} {t : Inbound} (hempty : s.buffered = [])
      (hfetch : s.fetch s.capacity = (.ok bytes, t)) :
      Draws s want (.ok (bytes.take want)) { t with buffered := bytes.drop want }
  /-- The buffer cannot be filled. -/
  | failed {error : IoError} {t : Inbound} (hempty : s.buffered = [])
      (hfetch : s.fetch s.capacity = (.error error, t)) : Draws s want (.error error) t

/-- Every read is one of these, according to the buffer and to how much is asked for. -/
theorem draws_of_read {r : Except IoError (List UInt8)} (h : s.read want = (r, t)) :
    Draws s want r t := by
  unfold read at h
  split at h
  · cases h
    exact .buffered
  · rename_i hbuffered
    have hempty : s.buffered = [] := by simpa using hbuffered
    split at h
    · exact .direct hempty h
    · split at h <;> rename_i hfetch <;> cases h
      · exact .refilled hempty hfetch
      · exact .failed hempty hfetch

/-- Bytes that pass from a stream to its reader, by reads that are repeated where they are
interrupted. -/
inductive Passes : Inbound → List UInt8 → Inbound → Prop
  /-- No read is needed for no bytes. -/
  | refl (s : Inbound) : Passes s [] s
  /-- A read takes some bytes, and others pass after them. -/
  | chunk {s t u : Inbound} {want : Nat} {chunk taken : List UInt8}
      (hread : s.read want = (.ok chunk, t)) (hne : chunk ≠ []) (h : Passes t taken u) :
      Passes s (chunk ++ taken) u
  /-- A read was interrupted, and is repeated. -/
  | interrupted {s t u : Inbound} {want : Nat} {error : IoError} {taken : List UInt8}
      (hread : s.read want = (.error error, t)) (hkind : error.kind = .interrupted)
      (h : Passes t taken u) : Passes s taken u

/-- Bytes may pass after other bytes, and both pass in this order. -/
theorem Passes.trans {first second : List UInt8} (h : s.Passes first t)
    (h' : t.Passes second u) : s.Passes (first ++ second) u := by
  induction h with
  | refl => exact h'
  | chunk hread hne _ ih =>
    rw [List.append_assoc]
    exact .chunk hread hne (ih h')
  | interrupted hread hkind _ ih => exact .interrupted hread hkind (ih h')

/-- How a series of reads comes to its end. -/
inductive Stop where
  /-- All bytes that were asked for are there. -/
  | complete
  /-- The stream ended. -/
  | ended
  /-- A read failed. -/
  | failed (error : IoError)

/-- The last read of a series, if any was needed to end it. -/
inductive Stops : Inbound → Stop → Inbound → Prop
  /-- All bytes are there, and no read is needed to end the series. -/
  | complete (s : Inbound) : Stops s .complete s
  /-- A read that asked for bytes found the end of the stream. -/
  | ended {s t : Inbound} {want : Nat} (hwant : 0 < want) (hread : s.read want = (.ok [], t)) :
      Stops s .ended t
  /-- A read failed otherwise than by an interruption. -/
  | failed {s t : Inbound} {want : Nat} {error : IoError} (hwant : 0 < want)
      (hread : s.read want = (.error error, t)) (hkind : error.kind ≠ .interrupted) :
      Stops s (.failed error) t

/-- A series of reads takes bytes off a stream and comes to its end. -/
def Reads (s : Inbound) (taken : List UInt8) (stop : Stop) (t : Inbound) : Prop :=
  ∃ u, s.Passes taken u ∧ u.Stops stop t

/-- A series of reads may begin with bytes that pass, and they count as taken by it. -/
theorem Passes.reads {first second : List UInt8} {stop : Stop} (h : s.Passes first t)
    (h' : t.Reads second stop u) : s.Reads (first ++ second) stop u := by
  obtain ⟨v, hpasses, hstops⟩ := h'
  exact ⟨v, h.trans hpasses, hstops⟩

/-- By a series of reads that found all bytes these have passed. -/
theorem Reads.passes {taken : List UInt8} (h : s.Reads taken .complete t) : s.Passes taken t := by
  obtain ⟨u, hpasses, hstops⟩ := h
  cases hstops
  exact hpasses

/-- The outcome of filling a number of bytes, by the bytes that were taken and the way it ended. -/
inductive Fills (want : Nat) (taken : List UInt8) : Stop → Fill → Prop
  | full (hlength : taken.length = want) : Fills want taken .complete (.full taken)
  | ended (hlength : taken.length < want) : Fills want taken .ended (.ended taken.length)
  | failed {error : IoError} (hlength : taken.length < want) :
      Fills want taken (.failed error) (.failed error taken.length)

/-- Bytes that were read before are counted with the outcome of those after them. -/
theorem Fills.after {taken : List UInt8} {stop : Stop} {outcome : Fill}
    (h : Fills want taken stop outcome) (chunk : List UInt8) :
    Fills (chunk.length + want) (chunk ++ taken) stop (outcome.after chunk) := by
  have hlength : (chunk ++ taken).length = chunk.length + taken.length := List.length_append
  cases h with
  | full htaken => exact .full (by omega)
  | ended htaken =>
    rw [Fill.after, ← hlength]
    exact .ended (by omega)
  | failed htaken =>
    rw [Fill.after, ← hlength]
    exact .failed (by omega)

/-- A read past the buffer brings no more than was asked for. -/
theorem length_le_of_fetch {chunk : List UInt8} (h : s.fetch want = (.ok chunk, t)) :
    chunk.length ≤ want := by
  rcases fetch_cases h with heq | ⟨before, event, rest, -, hfetches⟩
  · cases heq
    exact Nat.zero_le _
  · cases hfetches with
    | chunk => exact List.length_take_le _ _
    | eof => exact Nat.zero_le _

/-- A read brings no more than was asked for, buffered or not. -/
theorem length_le_of_read {chunk : List UInt8} (h : s.read want = (.ok chunk, t)) :
    chunk.length ≤ want := by
  cases draws_of_read h with
  | buffered => exact List.length_take_le _ _
  | direct _ hfetch => exact length_le_of_fetch hfetch
  | refilled => exact List.length_take_le _ _

/-- Filling a number of bytes is a series of reads, and its outcome counts the bytes that they took.
The induction follows the reads, each of which takes bytes or an event off the stream. -/
theorem exists_reads_of_fill (s : Inbound) (want : Nat) :
    ∃ taken stop, s.Reads taken stop (s.fill want).2 ∧ Fills want taken stop (s.fill want).1 := by
  fun_induction fill s want with
  | case1 s => exact ⟨[], .complete, ⟨s, .refl s, .complete s⟩, .full rfl⟩
  | case2 s want hwant t hread =>
    have hpos := Nat.pos_of_ne_zero hwant
    exact ⟨[], .ended, ⟨s, .refl s, .ended hpos hread⟩, .ended hpos⟩
  | case3 s want hwant b bytes t hread outcome u hfill ih =>
    obtain ⟨taken, stop, hreads, hfills⟩ := ih
    rw [hfill] at hreads hfills
    have hlength : (b :: bytes).length + (want - (bytes.length + 1)) = want := by
      have hle := length_le_of_read hread
      rw [List.length_cons] at hle ⊢
      omega
    refine ⟨b :: bytes ++ taken, stop, ?_, ?_⟩
    · have hpasses : s.Passes (b :: bytes ++ []) t := .chunk hread (by simp) (.refl t)
      rw [List.append_nil] at hpasses
      exact hpasses.reads hreads
    · have hafter := hfills.after (b :: bytes)
      rwa [hlength] at hafter
  | case4 s want hwant error t hread hkind ih =>
    obtain ⟨taken, stop, hreads, hfills⟩ := ih
    have hpasses : s.Passes [] t := .interrupted hread hkind (.refl t)
    exact ⟨taken, stop, hpasses.reads hreads, hfills⟩
  | case5 s want hwant error t hread hkind =>
    have hpos := Nat.pos_of_ne_zero hwant
    exact ⟨[], .failed error, ⟨s, .refl s, .failed hpos hread hkind⟩, .failed hpos⟩

end Inbound

namespace Frame

open Inbound (Stop)

variable {α : Type}

/-- Bytes that are not yet a whole frame: part of a header, or a header that is accepted with part
of the body that it announces. -/
def IsPart (bytes : List UInt8) : Prop :=
  bytes.length < headerSize ∨
    ∃ length, bodyLength (bytes.take headerSize) = .ok length ∧ bytes.length < headerSize + length

/-- What is reported of a frame, by the bytes that were taken for it and the way that ended. -/
inductive Receipt (report : ReadReport) (format : Format α) :
    List UInt8 → Stop → Except ChannelError (α × Nat) → Prop
  /-- The stream ended within the frame. -/
  | ended {taken : List UInt8} (hpart : IsPart taken) :
      Receipt report format taken .ended (.error report.ended)
  /-- A read failed within the frame. -/
  | failed {taken : List UInt8} {error : IoError} (hpart : IsPart taken) :
      Receipt report format taken (.failed error) (.error (report.failed error taken.length))
  /-- The header announces a length that is not accepted. -/
  | refused {header : List UInt8} {e : ChannelError} (hheader : header.length = headerSize)
      (hlength : bodyLength header = .error e) :
      Receipt report format header .complete (.error e)
  /-- The frame was read as a whole. -/
  | whole {header body : List UInt8} (hheader : header.length = headerSize)
      (hlength : bodyLength header = .ok body.length) :
      Receipt report format (header ++ body) .complete
        ((parse format body).map fun v => (v, headerSize + body.length))

section

variable {report : ReadReport} {header : List UInt8} {s t : Inbound}

/-- Nothing is read behind a header that is not accepted, and its fault is reported. -/
theorem read_of_refused (format : Format α) {e : ChannelError}
    (hheader : s.fill headerSize = (.full header, t)) (hlength : bodyLength header = .error e) :
    read report format s = (.error e, t) := by
  rw [read, readBody, readExactly, hheader]
  dsimp only
  rw [hlength]

/-- Behind a header that is accepted the body is read, as many bytes as the header announces. -/
theorem readBody_of_accepted {length : Nat} (hheader : s.fill headerSize = (.full header, t))
    (hlength : bodyLength header = .ok length) :
    readBody report s = readExactly report length headerSize t := by
  rw [readBody, readExactly, hheader]
  dsimp only
  rw [hlength]

end

/-- The read of a frame is a series of reads, and all reporters tell of the same one. So readers
differ in what they report, and not in what they take. -/
theorem exists_receipt_of_read (format : Format α) (s : Inbound) :
    ∃ taken stop t, s.Reads taken stop t ∧ ∀ report,
      (read report format s).2 = t ∧
        Receipt report format taken stop (read report format s).1 := by
  obtain ⟨header, stop, hreads, hfills⟩ := s.exists_reads_of_fill headerSize
  rcases hfill : s.fill headerSize with ⟨outcome, t⟩
  rw [hfill] at hreads hfills
  cases hfills with
  | ended hpart =>
    refine ⟨header, .ended, t, hreads, fun report => ?_⟩
    rw [read, readBody, readExactly, hfill]
    exact ⟨rfl, .ended (.inl hpart)⟩
  | @failed error hpart =>
    refine ⟨header, .failed error, t, hreads, fun report => ?_⟩
    rw [read, readBody, readExactly, hfill]
    refine ⟨rfl, ?_⟩
    dsimp only
    rw [Nat.zero_add]
    exact .failed (.inl hpart)
  | full hheader =>
    cases hlength : bodyLength header with
    | error e =>
      refine ⟨header, .complete, t, hreads, fun report => ?_⟩
      rw [read_of_refused format hfill hlength]
      exact ⟨rfl, .refused hheader hlength⟩
    | ok length =>
      obtain ⟨body, stop, hrest, hfills⟩ := t.exists_reads_of_fill length
      rcases hrestFill : t.fill length with ⟨outcome, u⟩
      rw [hrestFill] at hrest hfills
      have hall := hreads.passes.reads hrest
      have htake : (header ++ body).take headerSize = header := by
        rw [← hheader, List.take_left]
      have hsize : (header ++ body).length = headerSize + body.length := by
        rw [List.length_append, hheader]
      refine ⟨header ++ body, stop, u, hall, fun report => ?_⟩
      rw [read, readBody_of_accepted hfill hlength, readExactly, hrestFill]
      cases hfills with
      | full hbody =>
        refine ⟨rfl, .whole hheader ?_⟩
        rw [hlength, hbody]
      | ended hshort =>
        refine ⟨rfl, .ended (.inr ⟨length, ?_, ?_⟩)⟩
        · rw [htake, hlength]
        · omega
      | failed hshort =>
        refine ⟨rfl, ?_⟩
        dsimp only
        rw [← hsize]
        refine .failed (.inr ⟨length, ?_, ?_⟩)
        · rw [htake, hlength]
        · omega

end Frame

end CommandChannel
