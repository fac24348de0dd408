import CommandChannel.Proofs.Readings

/-!
# Interrupted reads

A reader that is interrupted, or for which nothing is ready, asks again at once. Such events leave
no trace: dropping all of them from a stream changes neither what is read from it nor what is left
of it, wherever they stand between the chunks.
-/

namespace CommandChannel

namespace Inbound

/-- The stream without the events after which a reader asks again at once. -/
def quiet (s : Inbound) : Inbound := { s with events := s.events.filter (! ·.isRetried) }

variable {s t u : Inbound} {want : Nat}

/-- What is left without the retried events are the others, in their order. -/
@[simp] theorem events_quiet (s : Inbound) :
    s.quiet.events = s.events.filter (! ·.isRetried) := rfl

/-- Of events that are all retried none is left, so that they do not show in what is left. -/
theorem filter_retried {before : List ReadEvent} (h : ∀ e ∈ before, e.isRetried = true) :
    before.filter (! ·.isRetried) = [] := by
  rw [List.filter_eq_nil_iff]
  intro e he
  rw [h e he]
  decide

/-- What is met next is an interruption, or it is what is met without the retried events. A reader
does not see the events for which nothing was ready, but it does see interruptions. -/
theorem next_quiet_cases {event : ReadEvent} {rest : List ReadEvent}
    (h : s.next = (event, rest)) :
    (∃ error, event = .fail error ∧ error.kind = .interrupted ∧
      rest.filter (! ·.isRetried) = s.quiet.events) ∨
    event.isRetried = false ∧ s.quiet.next = (event, rest.filter (! ·.isRetried)) := by
  obtain ⟨hne, before, hbefore, hevents | ⟨hevents, rfl, rfl⟩⟩ := exists_meets_of_next h
  · have hquiet : s.quiet.events = (event :: rest).filter (! ·.isRetried) := by
      rw [events_quiet, hevents, List.filter_append, filter_retried hbefore, List.nil_append]
    cases hretried : event.isRetried with
    | false =>
      right
      rw [List.filter_cons_of_pos (by rw [hretried]; rfl)] at hquiet
      refine ⟨rfl, ?_⟩
      rw [next, hquiet, List.dropWhile_cons_of_neg (by simpa using hne)]
    | true =>
      left
      rw [List.filter_cons_of_neg (by rw [hretried]; decide)] at hquiet
      cases event with
      | fail error => exact ⟨error, rfl, by simpa [ReadEvent.isRetried] using hretried, hquiet.symm⟩
      | pending => exact absurd rfl hne
      | data => cases hretried
      | timeout => cases hretried
      | eof => cases hretried
  · right
    refine ⟨s.finish.isRetried_eq, ?_⟩
    have hquiet : s.quiet.events = [] := by rw [events_quiet, hevents, filter_retried hbefore]
    rw [next, hquiet]
    rfl

/-- A result after which the reader does not ask again at once. -/
def IsFinal : Except IoError (List UInt8) → Prop
  | .ok _ => True
  | .error error => error.kind ≠ .interrupted

/-- A read with the result `r` was interrupted and leaves what the reader would get without the
retried events, or without them the result `q` is the same and the same is left. -/
def Agrees (s : Inbound) (r q : Except IoError (List UInt8) × Inbound) : Prop :=
  (∃ error t, r = (.error error, t) ∧ error.kind = .interrupted ∧ t.quiet = s.quiet) ∨
    IsFinal r.1 ∧ q = (r.1, r.2.quiet)

/-- A read past the buffer that is no interruption is the same without the retried events. -/
theorem Fetches.quiet {event : ReadEvent} {rest : List ReadEvent}
    {r : Except IoError (List UInt8) × Inbound} (h : Fetches s want event rest r)
    (hfinal : event.isRetried = false) :
    IsFinal r.1 ∧ Fetches s.quiet want event (rest.filter (! ·.isRetried)) (r.1, r.2.quiet) := by
  cases h with
  | @chunk delay bytes _ hintime =>
    refine ⟨trivial, ?_⟩
    have hchunk : Fetches s.quiet want (.data delay bytes) (rest.filter (! ·.isRetried)) _ :=
      .chunk hintime
    convert hchunk using 2
    unfold Inbound.quiet
    congr 1
    split <;> rfl
  | late hlimit hlate => exact ⟨by simp [IsFinal, timeUp, IoKind.error], .late hlimit hlate⟩
  | timeout => exact ⟨by simp [IsFinal, timeUp, IoKind.error], .timeout⟩
  | eof => exact ⟨trivial, .eof⟩
  | fail => exact ⟨by simpa [IsFinal, ReadEvent.isRetried] using hfinal, .fail⟩

/-- A read past the buffer agrees with the one without the retried events. -/
theorem agrees_fetch (s : Inbound) (want : Nat) :
    s.Agrees (s.fetch want) (s.quiet.fetch want) := by
  cases hclosed : s.closed with
  | true =>
    have hquiet : s.quiet.closed = true := hclosed
    rw [fetch, if_pos hclosed, fetch, if_pos hquiet]
    exact .inr ⟨trivial, rfl⟩
  | false =>
    have hquiet : s.quiet.closed = false := hclosed
    rcases hnext : s.next with ⟨event, rest⟩
    have hfetches := fetches_fetch want hclosed hnext
    rcases next_quiet_cases hnext with ⟨error, rfl, hkind, hrest⟩ | ⟨hfinal, hnextQuiet⟩
    · left
      refine ⟨error, { s with events := rest }, hfetches.unique .fail, hkind, ?_⟩
      unfold quiet
      rw [hrest]
      rfl
    · right
      obtain ⟨hresult, hquietly⟩ := hfetches.quiet hfinal
      exact ⟨hresult, (fetches_fetch want hquiet hnextQuiet).unique hquietly⟩

/-- A read agrees with the one without the retried events, buffered or not. -/
theorem agrees_read (s : Inbound) (want : Nat) :
    s.Agrees (s.read want) (s.quiet.read want) := by
  have hbuffered : s.quiet.buffered = s.buffered := rfl
  have hcapacity : s.quiet.capacity = s.capacity := rfl
  unfold read
  rw [hbuffered, hcapacity]
  split
  · exact .inr ⟨trivial, rfl⟩
  · split
    · exact s.agrees_fetch want
    · rcases s.agrees_fetch s.capacity with ⟨error, t, hfetch, hkind, ht⟩ | ⟨hfinal, hfetch⟩
      · rw [hfetch]
        exact .inl ⟨error, t, rfl, hkind, ht⟩
      · right
        rw [hfetch]
        rcases hresult : s.fetch s.capacity with ⟨_ | _, t⟩
        · rw [hresult] at hfinal
          exact ⟨hfinal, rfl⟩
        · exact ⟨trivial, rfl⟩

/-- An interruption leaves what the reader would get without it. So to repeat the read is to go on
as if nothing had happened. -/
theorem quiet_of_interrupted {error : IoError} (h : s.read want = (.error error, t))
    (hkind : error.kind = .interrupted) : t.quiet = s.quiet := by
  have hagrees := s.agrees_read want
  rw [h] at hagrees
  rcases hagrees with ⟨_, _, heq, -, ht⟩ | ⟨hfinal, -⟩
  · cases heq
    exact ht
  · exact absurd hkind hfinal

/-- Any other read is the same without the retried events, and so is what it leaves. -/
theorem read_quiet_of_isFinal {r : Except IoError (List UInt8)} (h : s.read want = (r, t))
    (hfinal : IsFinal r) : s.quiet.read want = (r, t.quiet) := by
  have hagrees := s.agrees_read want
  rw [h] at hagrees
  rcases hagrees with ⟨_, _, heq, hkind, -⟩ | ⟨-, hquiet⟩
  · cases heq
    exact absurd hkind hfinal
  · exact hquiet

/-- Filling a number of bytes is the same without the retried events. The induction follows the
reads; an interrupted one leaves the stream without them as it is. -/
theorem fill_quiet (s : Inbound) (want : Nat) :
    s.quiet.fill want = ((s.fill want).1, (s.fill want).2.quiet) := by
  fun_induction fill s want with
  | case1 s => rw [fill_eq, if_pos rfl]
  | case2 s want hwant t hread =>
    rw [fill_eq, if_neg hwant, read_quiet_of_isFinal hread trivial]
  | case3 s want hwant b bytes t hread outcome u hfill ih =>
    rw [fill_eq, if_neg hwant, read_quiet_of_isFinal hread trivial]
    dsimp only
    rw [ih, hfill]
  | case4 s want hwant error t hread hkind ih => rw [← quiet_of_interrupted hread hkind, ih]
  | case5 s want hwant error t hread hkind =>
    rw [fill_eq, if_neg hwant, read_quiet_of_isFinal hread hkind]
    exact if_neg hkind

/-- The same bytes pass without the retried events, by induction on the reads by which they pass. -/
theorem Passes.quiet {taken : List UInt8} (h : s.Passes taken t) :
    s.quiet.Passes taken t.quiet := by
  induction h with
  | refl s => exact .refl _
  | chunk hread hne _ ih => exact .chunk (read_quiet_of_isFinal hread trivial) hne ih
  | interrupted hread hkind _ ih =>
    rw [← quiet_of_interrupted hread hkind]
    exact ih

/-- A series of reads takes the same bytes and ends in the same way without the retried events. -/
theorem Reads.quiet {taken : List UInt8} {stop : Stop} (h : s.Reads taken stop t) :
    s.quiet.Reads taken stop t.quiet := by
  obtain ⟨u, hpasses, hstops⟩ := h
  refine ⟨u.quiet, hpasses.quiet, ?_⟩
  cases hstops with
  | complete => exact .complete _
  | ended hwant hread => exact .ended hwant (read_quiet_of_isFinal hread trivial)
  | failed hwant hread hkind => exact .failed hwant (read_quiet_of_isFinal hread hkind) hkind

end Inbound

namespace Frame

variable {α : Type}

/-- Reading a number of bytes is reported the same without the retried events. -/
theorem readExactly_quiet (report : ReadReport) (want before : Nat) (s : Inbound) :
    readExactly report want before s.quiet =
      ((readExactly report want before s).1, (readExactly report want before s).2.quiet) := by
  unfold readExactly
  rw [s.fill_quiet]
  rcases s.fill want with ⟨_ | _ | _, t⟩ <;> rfl

/-- Reading the body of a frame is the same without the retried events. -/
theorem readBody_quiet (report : ReadReport) (s : Inbound) :
    readBody report s.quiet = ((readBody report s).1, (readBody report s).2.quiet) := by
  unfold readBody
  rw [readExactly_quiet]
  rcases readExactly report headerSize 0 s with ⟨_ | header, t⟩
  · rfl
  · dsimp only
    cases bodyLength header with
    | error e => rfl
    | ok length => exact readExactly_quiet report length headerSize t

/-- Reading a frame is the same without the retried events, whatever the report and the format
are. -/
theorem read_quiet (report : ReadReport) (format : Format α) (s : Inbound) :
    read report format s.quiet = ((read report format s).1, (read report format s).2.quiet) := by
  unfold read
  rw [readBody_quiet]
  rcases readBody report s with ⟨_ | _, t⟩ <;> rfl

end Frame

end CommandChannel
