import CommandChannel.Duration
import CommandChannel.Error

/-!
# Streams of bytes to write

A stream takes bytes as its peer lets it: each write meets the next event, and when the events are
over everything is taken. The bytes taken so far are kept, in order.
-/

namespace CommandChannel

/-- What a writer meets next. -/
inductive WriteEvent where
  /-- At most so many bytes are taken. -/
  | accept (limit : Nat)
  /-- Nothing is taken in time. -/
  | timeout
  /-- The write fails. -/
  | fail (error : IoError)
deriving DecidableEq, Repr

/-- What a flush meets next. -/
inductive FlushEvent where
  /-- All is well. -/
  | done
  /-- The bytes do not leave in time. -/
  | timeout
  /-- The flush fails. -/
  | fail (error : IoError)
deriving DecidableEq, Repr

/-- A stream of bytes to write. -/
structure Outbound where
  events : List WriteEvent := []
  flushes : List FlushEvent := []
  /-- The bytes taken so far. -/
  accepted : List UInt8 := []
  /-- How long a write waits, if there is a limit. -/
  timeout : Option Duration := none
  /-- The connection was shut down. -/
  closed : Bool := false
  /-- The present moment. -/
  now : Duration := .zero

namespace Outbound

/-- The failure of a write when time is up. -/
def timeUp : IoError := IoKind.wouldBlock.error

/-- The stream with the beginning of `bytes` taken. -/
def accept (s : Outbound) (bytes : List UInt8) : Outbound :=
  { s with accepted := s.accepted ++ bytes }

/-- Wait as long as a write does at most. -/
def waitOut (s : Outbound) : Outbound := { s with now := s.now + s.timeout.getD .zero }

/-- One write. Returns how many bytes were taken. -/
def write (s : Outbound) (bytes : List UInt8) : Except IoError Nat × Outbound :=
  if s.closed then
    (.error IoKind.brokenPipe.error, s)
  else
    match s.events with
    | [] => (.ok bytes.length, s.accept bytes)
    | .accept limit :: rest =>
      let taken := bytes.take limit
      (.ok taken.length, { s with events := rest }.accept taken)
    | .timeout :: rest => (.error timeUp, { s with events := rest }.waitOut)
    | .fail error :: rest => (.error error, { s with events := rest })

/-- Let the bytes that were taken leave. -/
def flush (s : Outbound) : Except IoError Unit × Outbound :=
  match s.flushes with
  | [] => (.ok (), s)
  | .done :: rest => (.ok (), { s with flushes := rest })
  | .timeout :: rest => (.error timeUp, { s with flushes := rest }.waitOut)
  | .fail error :: rest => (.error error, { s with flushes := rest })

/-- A write that was interrupted takes an event off the stream. -/
theorem length_write_of_interrupted {s t : Outbound} {bytes : List UInt8} {error : IoError}
    (h : s.write bytes = (.error error, t)) (hkind : error.kind = .interrupted) :
    t.events.length < s.events.length := by
  unfold write at h
  split at h
  · cases h; cases hkind
  · split at h
    · cases h
    · cases h
    · cases h; cases hkind
    · rename_i heq
      cases h
      simp [heq]

/-- The outcome of writing a number of bytes. -/
inductive Drain where
  /-- All of them were taken. -/
  | whole
  /-- A write took nothing after some bytes. -/
  | refused (count : Nat)
  /-- A write failed after some bytes. -/
  | failed (error : IoError) (count : Nat)
deriving DecidableEq, Repr

/-- The outcome with bytes that were written before. -/
def Drain.after (before : Nat) : Drain → Drain
  | whole => whole
  | refused count => refused (before + count)
  | failed error count => failed error (before + count)

/-- No write puts an event on the stream. With the bytes that it takes, writing comes to an end. -/
theorem length_write_le (s : Outbound) (bytes : List UInt8) :
    (s.write bytes).2.events.length ≤ s.events.length := by
  unfold write
  split
  · exact Nat.le_refl _
  · split <;> rename_i heq <;> simp [heq, accept, waitOut]

/-- Write until all bytes are taken. A write that was interrupted is repeated. -/
def drain (s : Outbound) (bytes : List UInt8) : Drain × Outbound :=
  if _hbytes : bytes = [] then
    (.whole, s)
  else
    match _h : s.write bytes with
    | (.ok 0, t) => (.refused 0, t)
    | (.ok (count + 1), t) =>
      let (outcome, t) := t.drain (bytes.drop (count + 1))
      (outcome.after (count + 1), t)
    | (.error error, t) =>
      if _hkind : error.kind = .interrupted then t.drain bytes else (.failed error 0, t)
termination_by bytes.length + s.events.length
decreasing_by
  · have hle := s.length_write_le bytes
    rw [_h] at hle
    have hle : t.events.length ≤ s.events.length := hle
    have hpos : 0 < bytes.length := List.length_pos_iff.2 _hbytes
    rw [List.length_drop]
    omega
  · have hlt := length_write_of_interrupted _h _hkind
    omega

/-- One step of writing until all bytes are taken. The recursion is well founded, so that proofs
unfold it by this equation. -/
theorem drain_eq (s : Outbound) (bytes : List UInt8) :
    s.drain bytes =
      if bytes = [] then (.whole, s)
      else
        match s.write bytes with
        | (.ok 0, t) => (.refused 0, t)
        | (.ok (count + 1), t) =>
          (((t.drain (bytes.drop (count + 1))).1).after (count + 1),
            (t.drain (bytes.drop (count + 1))).2)
        | (.error error, t) =>
          if error.kind = .interrupted then t.drain bytes else (.failed error 0, t) := by
  rw [drain]
  split
  · rfl
  · split <;> rename_i heq <;> simp [heq]

end Outbound

end CommandChannel
