import CommandChannel.Duration
import CommandChannel.Error

/-!
# Streams of bytes to read

A stream delivers what its peer sends as a series of events, and repeats a last event when the
series is over. A read waits for the next event and takes at most as many bytes as it asks for;
the rest of a chunk stays. A buffered stream fetches a whole buffer at a time unless a read asks
for as much as that.
-/

namespace CommandChannel

/-- What a reader meets next. -/
inductive ReadEvent where
  /-- Bytes that arrive after a delay. No bytes are the end of the stream. -/
  | data (delay : Duration) (bytes : List UInt8)
  /-- Nothing arrives in time. -/
  | timeout
  /-- The peer has closed the stream. -/
  | eof
  /-- The read fails. -/
  | fail (error : IoError)
  /-- Nothing is ready yet; the reader asks again at once. -/
  | pending
deriving DecidableEq, Repr

/-- The event lets a reader ask again at once: nothing was ready, or the read was interrupted. -/
def ReadEvent.isRetried : ReadEvent → Bool
  | pending => true
  | fail error => error.kind == .interrupted
  | _ => false

/-- The end of a stream as seen by a reader: an event that can be met again and again. -/
structure Finish where
  event : ReadEvent
  /-- A reader that asks again at once would never come to an end. -/
  isRetried_eq : event.isRetried = false

/-- The peer has closed the stream. -/
def Finish.eof : Finish := ⟨.eof, rfl⟩

/-- A stream of bytes to read. -/
structure Inbound where
  events : List ReadEvent
  /-- What every read meets after the events. -/
  finish : Finish := .eof
  /-- The size of the buffer; a stream without one has none. -/
  capacity : Nat := 0
  /-- Bytes in the buffer. -/
  buffered : List UInt8 := []
  /-- How long a read waits, if there is a limit. -/
  timeout : Option Duration := none
  /-- The connection was shut down. -/
  closed : Bool := false
  /-- The present moment. -/
  now : Duration := .zero

namespace Inbound

/-- The failure of a read when time is up. -/
def timeUp : IoError := IoKind.wouldBlock.error

/-- The next event and those after it. -/
def next (s : Inbound) : ReadEvent × List ReadEvent :=
  match s.events.dropWhile (· == .pending) with
  | [] => (s.finish.event, [])
  | event :: rest => (event, rest)

/-- Take at most `want` bytes of a chunk that has arrived. -/
def take (s : Inbound) (want : Nat) (bytes : List UInt8) (rest : List ReadEvent) :
    Except IoError (List UInt8) × Inbound :=
  let left := bytes.drop want
  let events := if left.isEmpty then rest else .data .zero left :: rest
  (.ok (bytes.take want), { s with events })

/-- A read that goes past the buffer. Bytes that arrive only after the limit stay, closer by the
time that was waited. -/
def fetch (s : Inbound) (want : Nat) : Except IoError (List UInt8) × Inbound :=
  if s.closed then
    (.ok [], s)
  else
    match s.next with
    | (.data delay bytes, rest) =>
      match s.timeout with
      | none => { s with now := s.now + delay }.take want bytes rest
      | some limit =>
        if .zero < delay ∧ limit ≤ delay then
          (.error timeUp,
            { s with events := .data (delay - limit) bytes :: rest, now := s.now + limit })
        else
          { s with now := s.now + delay }.take want bytes rest
    | (.timeout, rest) =>
      (.error timeUp, { s with events := rest, now := s.now + s.timeout.getD .zero })
    | (.eof, rest) => (.ok [], { s with events := rest })
    | (.fail error, rest) => (.error error, { s with events := rest })
    | (.pending, rest) => (.ok [], { s with events := rest })

/-- A read of at most `want` bytes; no bytes are the end of the stream. -/
def read (s : Inbound) (want : Nat) : Except IoError (List UInt8) × Inbound :=
  if !s.buffered.isEmpty then
    (.ok (s.buffered.take want), { s with buffered := s.buffered.drop want })
  else if s.capacity ≤ want then
    s.fetch want
  else
    match s.fetch s.capacity with
    | (.ok bytes, s) => (.ok (bytes.take want), { s with buffered := bytes.drop want })
    | (.error error, s) => (.error error, s)

/-- Passing over events makes none, whichever they are. So skipping what is not ready does no harm
to termination. -/
theorem length_dropWhile_le (events : List ReadEvent) (p : ReadEvent → Bool) :
    (events.dropWhile p).length ≤ events.length :=
  (List.dropWhile_suffix p).length_le

/-- What is met next is taken off the events, or it is the last event of the stream. Only the latter
may be met again and again, and it never asks to be retried. -/
theorem next_cases (s : Inbound) :
    s.next.2.length < s.events.length ∨ s.next = (s.finish.event, []) := by
  unfold next
  have hle := length_dropWhile_le s.events (· == .pending)
  split
  · exact .inr rfl
  · rename_i h
    rw [h] at hle
    exact .inl hle

/-- An interrupted read takes an event off the stream. So a reader that repeats interrupted reads is
done after finitely many of them. -/
theorem length_fetch_of_interrupted {s t : Inbound} {want : Nat} {error : IoError}
    (h : s.fetch want = (.error error, t)) (hkind : error.kind = .interrupted) :
    t.events.length < s.events.length := by
  have hnext := s.next_cases
  have hfinish := s.finish.isRetried_eq
  unfold fetch at h
  split at h
  · cases h
  · split at h
    · split at h
      · cases h
      · split at h
        · cases h; cases hkind
        · cases h
    · cases h; cases hkind
    · cases h
    · rename_i e rest heq
      cases h
      rw [heq] at hnext
      rcases hnext with hnext | hnext
      · exact hnext
      · injection hnext with he _
        rw [← he] at hfinish
        simp [ReadEvent.isRetried, hkind] at hfinish
    · cases h

/-- An interrupted read takes an event off the stream, buffered or not. -/
theorem length_read_of_interrupted {s t : Inbound} {want : Nat} {error : IoError}
    (h : s.read want = (.error error, t)) (hkind : error.kind = .interrupted) :
    t.events.length < s.events.length := by
  unfold read at h
  split at h
  · cases h
  · split at h
    · exact length_fetch_of_interrupted h hkind
    · split at h
      · cases h
      · rename_i heq
        cases h
        exact length_fetch_of_interrupted heq hkind

/-- Taking bytes of a chunk leaves the events after it, and before them the rest of the chunk if
there is one. -/
theorem length_take_le (s : Inbound) (want : Nat) (bytes : List UInt8) (rest : List ReadEvent) :
    (s.take want bytes rest).2.events.length ≤ rest.length + 1 := by
  simp only [take]
  split <;> simp

/-- What is left after the next event is no more than there was, also at the end of the stream. -/
theorem length_next_le (s : Inbound) : s.next.2.length ≤ s.events.length := by
  rcases s.next_cases with h | h
  · exact Nat.le_of_lt h
  · simp [h]

/-- A read leaves at most one event more than there were, namely the rest of a chunk. That is made
up for by the bytes that it took. -/
theorem length_fetch_le (s : Inbound) (want : Nat) :
    (s.fetch want).2.events.length ≤ s.events.length + 1 := by
  have hnext := s.length_next_le
  have htake (t : Inbound) (bytes : List UInt8) := length_take_le t want bytes s.next.2
  unfold fetch
  split
  · exact Nat.le_succ _
  · split <;> rename_i heq <;> rw [heq] at hnext htake
    · split
      · exact Nat.le_trans (htake _ _) (Nat.succ_le_succ hnext)
      · split
        · exact Nat.succ_le_succ hnext
        · exact Nat.le_trans (htake _ _) (Nat.succ_le_succ hnext)
    all_goals exact Nat.le_succ_of_le hnext

/-- A read leaves at most one event more than there were, buffered or not. -/
theorem length_read_le (s : Inbound) (want : Nat) :
    (s.read want).2.events.length ≤ s.events.length + 1 := by
  unfold read
  split
  · exact Nat.le_succ _
  · split
    · exact s.length_fetch_le want
    · have h := s.length_fetch_le s.capacity
      split <;> rename_i heq <;> rw [heq] at h <;> exact h

/-- The outcome of reading a number of bytes. -/
inductive Fill where
  /-- All of them. -/
  | full (bytes : List UInt8)
  /-- The stream ended after some bytes. -/
  | ended (count : Nat)
  /-- A read failed after some bytes. -/
  | failed (error : IoError) (count : Nat)
deriving DecidableEq, Repr

/-- The outcome with bytes that were read before. -/
def Fill.after (bytes : List UInt8) : Fill → Fill
  | full more => full (bytes ++ more)
  | ended count => ended (bytes.length + count)
  | failed error count => failed error (bytes.length + count)

/-- Read until `want` bytes are there. A read that was interrupted is repeated. -/
def fill (s : Inbound) (want : Nat) : Fill × Inbound :=
  if _hwant : want = 0 then
    (.full [], s)
  else
    match _h : s.read want with
    | (.ok [], t) => (.ended 0, t)
    | (.ok (b :: bytes), t) =>
      let (outcome, t) := t.fill (want - (bytes.length + 1))
      (outcome.after (b :: bytes), t)
    | (.error error, t) =>
      if _hkind : error.kind = .interrupted then t.fill want else (.failed error 0, t)
termination_by 2 * want + s.events.length
decreasing_by
  · have hle := s.length_read_le want
    rw [_h] at hle
    have hle : t.events.length ≤ s.events.length + 1 := hle
    omega
  · have hlt := length_read_of_interrupted _h _hkind
    omega

/-- One step of reading until `want` bytes are there. The recursion is well founded, so that proofs
unfold it by this equation. -/
theorem fill_eq (s : Inbound) (want : Nat) :
    s.fill want =
      if want = 0 then (.full [], s)
      else
        match s.read want with
        | (.ok [], t) => (.ended 0, t)
        | (.ok (b :: bytes), t) =>
          (((t.fill (want - (bytes.length + 1))).1).after (b :: bytes),
            (t.fill (want - (bytes.length + 1))).2)
        | (.error error, t) =>
          if error.kind = .interrupted then t.fill want else (.failed error 0, t) := by
  rw [fill]
  split
  · rfl
  · split <;> rename_i heq <;> simp [heq]

end Inbound

end CommandChannel
