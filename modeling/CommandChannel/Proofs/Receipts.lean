import CommandChannel.Proofs.Interruptions
import CommandChannel.Proofs.Streams

/-!
# What a read of a frame accounts for

Whatever a stream does, the report of a blocking reader accounts for every byte that was taken off
it. A success names the size of what was taken; time that was up is reported as clean if nothing was
taken, and is then as if it had not been; otherwise the number of bytes that were taken is reported.
-/

namespace CommandChannel

/-- The event is that time is up. -/
def ReadEvent.isTimeout : ReadEvent → Bool
  | timeout => true
  | fail error => error.kind.isTimeout
  | _ => false

namespace Inbound

/-- The bytes that a stream holds before its last event. -/
def content (s : Inbound) : List UInt8 := s.buffered ++ s.events.flatMap ReadEvent.bytes

/-- Time was up in the last read of a series. -/
def Stop.isTimeout : Stop → Bool
  | failed error => error.kind.isTimeout
  | _ => false

variable {s t u : Inbound} {want : Nat}

/-- A read that fails goes past the buffer of an open stream. So it failed with the event that was
met. -/
theorem exists_fetches_of_read_error {error : IoError} (h : s.read want = (.error error, t)) :
    ∃ before event rest asked, s.Meets before event rest ∧
      Fetches s asked event rest (.error error, t) := by
  have hfetch {asked : Nat} (h : s.fetch asked = (.error error, t)) :
      ∃ before event rest asked, s.Meets before event rest ∧
        Fetches s asked event rest (.error error, t) := by
    rcases fetch_cases h with heq | ⟨before, event, rest, hmeets, hfetches⟩
    · cases heq
    · exact ⟨before, event, rest, asked, hmeets, hfetches⟩
  cases draws_of_read h with
  | direct _ h => exact hfetch h
  | failed _ h => exact hfetch h

/-- The bytes that a read brings. -/
def received : Except IoError (List UInt8) → List UInt8
  | .ok bytes => bytes
  | .error _ => []

end Inbound

namespace Frame

open Inbound (Stop)

variable {α : Type} {format : Format α} {taken : List UInt8} {stop : Stop}
  {result : Except ChannelError (α × Nat)}

/-- Time that was up is reported as such exactly if nothing had been transferred before. -/
theorem readFault_eq_timedOut_iff {error : IoError} {transferred : Nat} :
    readFault error transferred = .timedOut ↔
      error.kind.isTimeout = true ∧ transferred = 0 := by
  unfold readFault timeUp
  split
  · split <;> simp [*]
  · split <;> simp [*]

/-- A length that is not accepted is zero or above the limit, and is reported as such. -/
theorem bodyLength_cases (bytes : List UInt8) :
    (headerValue bytes = 0 ∧ bodyLength bytes = .error (.malformed "empty frame")) ∨
    (sizeLimit < headerValue bytes ∧
      bodyLength bytes = .error (.oversized (headerValue bytes) sizeLimit)) ∨
    (0 < headerValue bytes ∧ headerValue bytes ≤ sizeLimit ∧
      bodyLength bytes = .ok (headerValue bytes)) := by
  unfold bodyLength
  dsimp only
  split
  · exact .inl ⟨by assumption, rfl⟩
  · split
    · exact .inr (.inl ⟨by assumption, rfl⟩)
    · exact .inr (.inr ⟨by omega, by omega, rfl⟩)

/-- A body that cannot be parsed is malformed, with the fault that its reader found. -/
theorem parse_eq_error {body : List UInt8} {e : ChannelError}
    (h : parse format body = .error e) :
    ∃ fault, format body = .error fault ∧
      e = .malformed ("invalid JSON: " ++ fault.report body) := by
  unfold parse at h
  split at h
  · cases h
  · rename_i fault hfault
    cases h
    exact ⟨fault, hfault, rfl⟩

/-- The result of a frame that was read as a whole is its value, or the fault of its body. -/
theorem whole_cases (format : Format α) (body : List UInt8) (size : Nat) :
    (∃ v, (parse format body).map (fun v => (v, size)) = .ok (v, size)) ∨
      ∃ fault, format body = .error fault ∧ (parse format body).map (fun v => (v, size)) =
        .error (.malformed ("invalid JSON: " ++ fault.report body)) := by
  cases hparse : parse format body with
  | ok v => exact .inl ⟨v, rfl⟩
  | error e =>
    obtain ⟨fault, hfault, rfl⟩ := parse_eq_error hparse
    exact .inr ⟨fault, hfault, rfl⟩

/-- A length that is accepted is the one that the header announces. -/
theorem bodyLength_eq_ok {bytes : List UInt8} {length : Nat} (h : bodyLength bytes = .ok length) :
    length = headerValue bytes := by
  rcases bodyLength_cases bytes with ⟨-, heq⟩ | ⟨-, heq⟩ | ⟨-, -, heq⟩ <;>
    rw [h] at heq <;> cases heq
  rfl

/-- A failed read is never reported as a fault of the bytes. So a fault of the bytes says that a
frame was there. -/
theorem readFault_ne (error : IoError) (transferred : Nat) :
    (∀ reason, readFault error transferred ≠ .malformed reason) ∧
      ∀ size max, readFault error transferred ≠ .oversized size max := by
  unfold readFault timeUp
  split
  · split <;> simp
  · split <;> simp

/-- A frame fails for its header, for its body, or for a read that broke off. What is reported tells
these cases apart. -/
theorem Receipt.error_cases {e : ChannelError}
    (h : Receipt .blocking format taken stop (.error e)) :
    (taken.length = headerSize ∧
      (headerValue taken = 0 ∧ e = .malformed "empty frame" ∨
        sizeLimit < headerValue taken ∧ e = .oversized (headerValue taken) sizeLimit)) ∨
    (taken.length = headerSize + headerValue (taken.take headerSize) ∧
      ∃ fault, format (taken.drop headerSize) = .error fault ∧
        e = .malformed ("invalid JSON: " ++ fault.report (taken.drop headerSize))) ∨
    (stop ≠ .complete ∧ (∀ reason, e ≠ .malformed reason) ∧
      ∀ size max, e ≠ .oversized size max) := by
  generalize hresult : Except.error e = result at h
  cases h with
  | ended =>
    cases hresult
    exact .inr (.inr ⟨nofun, by simp [ReadReport.blocking], by simp [ReadReport.blocking]⟩)
  | failed =>
    cases hresult
    exact .inr (.inr ⟨nofun, readFault_ne _ _⟩)
  | refused hheader hlength =>
    cases hresult
    refine .inl ⟨hheader, ?_⟩
    rcases bodyLength_cases taken with ⟨hvalue, h⟩ | ⟨hvalue, h⟩ | ⟨-, -, h⟩ <;>
      rw [hlength] at h <;> cases h
    · exact .inl ⟨hvalue, rfl⟩
    · exact .inr ⟨hvalue, rfl⟩
  | @whole first body hheader hlength =>
    rcases whole_cases format body (headerSize + body.length) with ⟨v, h⟩ | ⟨fault, hfault, h⟩ <;>
      rw [h] at hresult <;> cases hresult
    have htake : (first ++ body).take headerSize = first := by rw [← hheader, List.take_left]
    have hdrop : (first ++ body).drop headerSize = body := by rw [← hheader, List.drop_left]
    rw [htake, hdrop, List.length_append, hheader, bodyLength_eq_ok hlength]
    exact .inr (.inl ⟨rfl, fault, hfault, rfl⟩)

/-- No failure of a frame whose bytes all came is a matter of time: it is taken for a loss of the
connection. -/
theorem Receipt.isLoss_of_complete {e : ChannelError}
    (h : Receipt .blocking format taken .complete (.error e)) : e.isLoss = true := by
  rcases h.error_cases with ⟨-, ⟨-, rfl⟩ | ⟨-, rfl⟩⟩ | ⟨-, fault, -, rfl⟩ | ⟨hstop, -⟩
  · rfl
  · rfl
  · rfl
  · exact absurd rfl hstop

/-- Time that was up is reported as clean exactly if it was up in the last read and nothing had been
taken before. -/
theorem Receipt.timedOut_iff (h : Receipt .blocking format taken stop result) :
    result = .error .timedOut ↔ stop.isTimeout = true ∧ taken.length = 0 := by
  cases stop with
  | complete =>
    refine ⟨fun hresult => ?_, fun hstop => absurd hstop.1 (by decide)⟩
    rw [hresult] at h
    exact absurd h.isLoss_of_complete (by decide)
  | ended =>
    cases h
    simp [ReadReport.blocking, Stop.isTimeout]
  | failed error =>
    cases h
    rw [Except.error.injEq]
    exact readFault_eq_timedOut_iff

end Frame

end CommandChannel
