import CommandChannel.Proofs.Writing

/-!
# What a write of a frame accounts for

A frame is written by a series of writes, each of which offers what is left of it, until one of them
takes nothing or fails, or nothing is left and what was taken is flushed. The report of a blocking
writer accounts for every byte that was taken: all of them after a success, none where time was up
and the stream may be kept, and their number where time was up too late for that.
-/

namespace CommandChannel

namespace Outbound

/-- Bytes that pass from a writer to a stream, with others left behind them. Each write offers all
that has not passed yet, and one that is interrupted is repeated. -/
inductive Passes (left : List UInt8) : Outbound → List UInt8 → Outbound → Prop
  /-- No write is needed for no bytes. -/
  | refl (s : Outbound) : Passes left s [] s
  /-- A write takes some bytes, and others pass after them. -/
  | chunk {s t u : Outbound} {chunk taken : List UInt8}
      (hwrite : s.write (chunk ++ (taken ++ left)) = (.ok chunk.length, t)) (hne : chunk ≠ [])
      (h : Passes left t taken u) : Passes left s (chunk ++ taken) u
  /-- A write was interrupted, and is repeated. -/
  | interrupted {s t u : Outbound} {error : IoError} {taken : List UInt8}
      (hwrite : s.write (taken ++ left) = (.error error, t)) (hkind : error.kind = .interrupted)
      (hne : taken ++ left ≠ []) (h : Passes left t taken u) : Passes left s taken u

/-- How the write of a frame comes to its end. -/
inductive Halt where
  /-- All bytes were taken and flushed. -/
  | flushed
  /-- All bytes were taken, and the flush failed. -/
  | unflushed (error : IoError)
  /-- A write took nothing. -/
  | refused
  /-- A write failed. -/
  | failed (error : IoError)

/-- The last write or flush of a series, with the bytes that are left then. -/
inductive Halts (s : Outbound) : List UInt8 → Halt → Outbound → Prop
  | flushed {t : Outbound} (hflush : s.flush = (.ok (), t)) : Halts s [] .flushed t
  | unflushed {t : Outbound} {error : IoError} (hflush : s.flush = (.error error, t)) :
      Halts s [] (.unflushed error) t
  | refused {t : Outbound} {left : List UInt8} (hleft : left ≠ [])
      (hwrite : s.write left = (.ok 0, t)) : Halts s left .refused t
  | failed {t : Outbound} {left : List UInt8} {error : IoError} (hleft : left ≠ [])
      (hwrite : s.write left = (.error error, t)) (hkind : error.kind ≠ .interrupted) :
      Halts s left (.failed error) t

/-- A series of writes takes bytes of a frame, leaves the rest of it and comes to its end. -/
def Delivers (s : Outbound) (taken left : List UInt8) (halt : Halt) (t : Outbound) : Prop :=
  ∃ u, s.Passes left taken u ∧ u.Halts left halt t

variable {s t u : Outbound} {taken left : List UInt8} {halt : Halt}

/-- Every stream takes every frame somehow. The induction is on the bytes that are left together
with the events; each write takes off one of these. -/
theorem exists_delivers (s : Outbound) (frame : List UInt8) :
    ∃ taken left halt t, frame = taken ++ left ∧ s.Delivers taken left halt t := by
  fun_induction drain s frame with
  | case1 s =>
    rcases hflush : s.flush with ⟨error | _, t⟩
    · exact ⟨[], [], .unflushed error, t, rfl, s, .refl s, .unflushed hflush⟩
    · exact ⟨[], [], .flushed, t, rfl, s, .refl s, .flushed hflush⟩
  | case2 s frame hframe t hwrite =>
    exact ⟨[], frame, .refused, t, rfl, s, .refl s, .refused hframe hwrite⟩
  | case3 s frame hframe count t hwrite _ _ _ ih =>
    obtain ⟨taken, left, halt, v, hrest, u, hpasses, hhalts⟩ := ih
    obtain ⟨hcount, -⟩ := accepted_write hwrite
    have hlength : (frame.take (count + 1)).length = count + 1 := List.length_take_of_le hcount
    have hsplit : frame = frame.take (count + 1) ++ (taken ++ left) := by
      rw [← hrest, List.take_append_drop]
    refine ⟨frame.take (count + 1) ++ taken, left, halt, v, ?_, u, .chunk ?_ ?_ hpasses, hhalts⟩
    · rw [List.append_assoc, ← hsplit]
    · rw [← hsplit, hlength, hwrite]
    · exact List.ne_nil_of_length_pos (by omega)
  | case4 s frame hframe error t hwrite hkind ih =>
    obtain ⟨taken, left, halt, v, rfl, u, hpasses, hhalts⟩ := ih
    exact ⟨taken, left, halt, v, rfl, u, .interrupted hwrite hkind hframe hpasses, hhalts⟩
  | case5 s frame hframe error t hwrite hkind =>
    exact ⟨[], frame, .failed error, t, rfl, s, .refl s, .failed hframe hwrite hkind⟩

/-- If nothing passed before, the outcome of the writes is as it is. -/
theorem Drain.after_zero (outcome : Drain) : outcome.after 0 = outcome := by
  cases outcome <;> simp [after]

/-- What passed in two goes before an outcome counts like all of it in one. -/
theorem Drain.after_after (outcome : Drain) (first second : Nat) :
    (outcome.after second).after first = outcome.after (first + second) := by
  cases outcome <;> simp [after, Nat.add_assoc]

/-- What has passed is counted with what the writes after that come to. -/
theorem Passes.drain_eq (h : s.Passes left taken u) :
    s.drain (taken ++ left) = ((u.drain left).1.after taken.length, (u.drain left).2) := by
  induction h with
  | refl s => rw [List.nil_append, List.length_nil, Drain.after_zero]
  | @chunk s t u chunk taken hwrite hne _ ih =>
    have hlength : chunk.length = chunk.length - 1 + 1 := by
      have hpos := List.length_pos_iff.2 hne
      omega
    rw [hlength] at hwrite
    rw [List.append_assoc, Outbound.drain_eq, if_neg (by simp [hne]), hwrite]
    dsimp only
    rw [← hlength, List.drop_left, ih, Drain.after_after, List.length_append]
  | interrupted hwrite hkind hne _ ih =>
    rw [Outbound.drain_eq, if_neg hne, hwrite]
    simp only [if_pos hkind, ih]

/-- What passes is taken, in its order, and nothing else is. -/
theorem Passes.accepted_eq (h : s.Passes left taken u) : u.accepted = s.accepted ++ taken := by
  induction h with
  | refl => rw [List.append_nil]
  | chunk hwrite _ _ ih =>
    rw [ih, (accepted_write hwrite).2, List.take_left, List.append_assoc]
  | interrupted hwrite _ _ _ ih => rw [ih, accepted_write_of_error hwrite]

/-- Nothing is taken by the last write or the flush of a series, so that all that was taken passed
before. -/
theorem Halts.accepted_eq (h : s.Halts left halt t) : t.accepted = s.accepted := by
  cases h with
  | flushed hflush | unflushed hflush =>
    have hsame := s.accepted_flush
    rwa [hflush] at hsame
  | refused _ hwrite => rw [(accepted_write hwrite).2, List.take_zero, List.append_nil]
  | failed _ hwrite _ => exact accepted_write_of_error hwrite

/-- The stream takes the bytes of a series behind those that it took before. -/
theorem Delivers.accepted_eq (h : s.Delivers taken left halt t) :
    t.accepted = s.accepted ++ taken := by
  obtain ⟨u, hpasses, hhalts⟩ := h
  rw [hhalts.accepted_eq, hpasses.accepted_eq]

/-- Time was up in the last write of a series, or in its flush. -/
def Halt.isTimeout : Halt → Bool
  | unflushed error | failed error => error.kind.isTimeout
  | flushed | refused => false

/-- The failure with which a series came to its end. -/
def Halt.error? : Halt → Option IoError
  | unflushed error | failed error => some error
  | flushed | refused => none

/-- All bytes were taken. -/
def Halt.isWhole : Halt → Bool
  | flushed | unflushed _ => true
  | refused | failed _ => false

/-- Bytes are left if and only if a write, and not the flush, ended the series. -/
theorem Halts.left_eq_nil_iff (h : s.Halts left halt t) : left = [] ↔ halt.isWhole = true := by
  cases h with
  | flushed | unflushed => simp [Halt.isWhole]
  | refused hleft | failed hleft => simp [Halt.isWhole, hleft]

end Outbound

namespace Frame

open Outbound (Halt)

variable {s t : Outbound} {taken left : List UInt8} {halt : Halt}

/-- What is reported of a frame of which so many bytes were taken. -/
def WriteReport.result (report : WriteReport) (count : Nat) : Halt → Except ChannelError Unit
  | .flushed => .ok ()
  | .unflushed error | .failed error => .error (report.failed error count)
  | .refused => .error report.refused

/-- The write of a frame is a series of writes. What is reported of it depends on the end of the
series and the number of bytes that were taken. -/
theorem writeEncoded_of_delivers (report : WriteReport) (h : s.Delivers taken left halt t) :
    writeEncoded report (taken ++ left) s = (report.result taken.length halt, t) := by
  obtain ⟨u, hpasses, hhalts⟩ := h
  unfold writeEncoded
  rw [hpasses.drain_eq]
  cases hhalts with
  | flushed hflush =>
    rw [Outbound.drain_eq, if_pos rfl]
    simp only [Outbound.Drain.after, hflush]
    rfl
  | unflushed hflush =>
    rw [Outbound.drain_eq, if_pos rfl]
    simp only [Outbound.Drain.after, hflush, List.append_nil]
    rfl
  | refused hleft hwrite =>
    rw [Outbound.drain_eq, if_neg hleft, hwrite]
    rfl
  | failed hleft hwrite hkind =>
    rw [Outbound.drain_eq, if_neg hleft, hwrite]
    simp only [if_neg hkind]
    rfl

/-- Time that was up is reported as such exactly if nothing had been transferred before. Then the
connection can still be used. -/
theorem writeFault_eq_timedOut_iff {error : IoError} {transferred : Nat} :
    writeFault error transferred = .timedOut ↔
      error.kind.isTimeout = true ∧ transferred = 0 := by
  unfold writeFault timeUp
  split
  · split <;> simp [*]
  · simp [*]

/-- Time that was up is reported with a number exactly if that many bytes had been transferred, and
more than none. -/
theorem writeFault_eq_desynchronized_iff {error : IoError} {transferred n : Nat} :
    writeFault error transferred = .desynchronized n ↔
      error.kind.isTimeout = true ∧ 0 < transferred ∧ n = transferred := by
  unfold writeFault timeUp
  split
  · split
    · simp [*]
    · simp [*]
      omega
  · simp [*]

/-- A success is reported if and only if all bytes were taken and flushed. -/
theorem WriteReport.result_eq_ok_iff {report : WriteReport} {count : Nat} :
    report.result count halt = .ok () ↔ halt = .flushed := by
  cases halt <;> simp [result]

/-- Time that was up is reported as clean if and only if nothing had been taken, be it in a write or
in the flush. -/
theorem WriteReport.result_eq_timedOut_iff {count : Nat} :
    WriteReport.blocking.result count halt = .error .timedOut ↔
      halt.isTimeout = true ∧ count = 0 := by
  cases halt with
  | flushed | refused => simp [result, blocking, Halt.isTimeout]
  | unflushed error | failed error =>
    rw [result, Except.error.injEq]
    exact writeFault_eq_timedOut_iff

/-- Time that was up too late is reported with the number of bytes that had been taken. -/
theorem WriteReport.result_eq_desynchronized_iff {count n : Nat} :
    WriteReport.blocking.result count halt = .error (.desynchronized n) ↔
      halt.isTimeout = true ∧ 0 < count ∧ n = count := by
  cases halt with
  | flushed | refused => simp [result, blocking, Halt.isTimeout]
  | unflushed error | failed error =>
    rw [result, Except.error.injEq]
    exact writeFault_eq_desynchronized_iff

/-- Every other failure is reported as it is, and no number of bytes goes with it. -/
theorem WriteReport.result_of_error {error : IoError} {count : Nat}
    (herror : halt.error? = some error) (htimeout : error.kind.isTimeout = false) :
    WriteReport.blocking.result count halt = .error (.io error) := by
  cases halt with
  | flushed | refused => cases herror
  | unflushed | failed =>
    cases herror
    simp [result, blocking, writeFault, htimeout]

/-- No end of a series is reported as a loss of the connection, as that would have the command sent
again. -/
theorem WriteReport.result_ne_lost (count : Nat) (reason : String) :
    WriteReport.blocking.result count halt ≠ .error (.lost reason) := by
  have hfault (error : IoError) : writeFault error count ≠ .lost reason := by
    intro h
    have hloss := isLoss_writeFault error count
    rw [h] at hloss
    cases hloss
  cases halt with
  | flushed | refused => simp [result, blocking]
  | unflushed error | failed error =>
    rw [result, ne_eq, Except.error.injEq]
    exact hfault error

/-- The size that is reported of a payload's frame is the number of bytes that were taken. -/
theorem write_of_delivers {payload : Payload} (report : WriteReport)
    (hencode : encode payload = .ok (taken ++ left)) (h : s.Delivers taken left halt t) :
    write report payload s = ((report.result taken.length halt).map fun _ => taken.length, t) := by
  unfold write
  rw [hencode]
  dsimp only
  rw [writeEncoded_of_delivers report h]
  cases hresult : report.result taken.length halt with
  | error e => rfl
  | ok _ =>
    have hleft : left = [] := by
      obtain ⟨u, -, hhalts⟩ := h
      rw [hhalts.left_eq_nil_iff, WriteReport.result_eq_ok_iff.1 hresult]
      rfl
    rw [hleft, List.append_nil]
    rfl

/-- Whatever a stream does, it takes bytes from the front of a frame, in their order, and the report
of a blocking writer accounts for them. A success is reported if and only if all of them were taken
and flushed. Time that was up is reported as such if and only if nothing had been taken, and with
the number of bytes if something had been; that is all of them where the flush took too long. A
write that takes nothing and every other failure are reported as they are, and no failure is a loss
of the connection. The size of a payload's frame is the number of bytes that were taken. -/
theorem write_accounts (frame : List UInt8) (s : Outbound) :
    let result := (writeEncoded .blocking frame s).1
    (∃ taken left halt t, frame = taken ++ left ∧ s.Delivers taken left halt t) ∧
    ∀ taken left halt t, frame = taken ++ left → s.Delivers taken left halt t →
      (writeEncoded .blocking frame s).2 = t ∧
      t.accepted = s.accepted ++ taken ∧
      (result = .ok () ↔ taken = frame ∧ halt = .flushed) ∧
      (result = .error .timedOut ↔ halt.isTimeout = true ∧ taken = []) ∧
      (∀ n, result = .error (.desynchronized n) ↔
        halt.isTimeout = true ∧ taken ≠ [] ∧ n = taken.length) ∧
      (∀ error, halt = .unflushed error → taken = frame) ∧
      (halt = .refused → result = .error (.io ⟨.writeZero, "failed to write whole frame"⟩)) ∧
      (∀ error, halt.error? = some error → error.kind.isTimeout = false →
        result = .error (.io error)) ∧
      (∀ reason, result ≠ .error (.lost reason)) ∧
      ∀ payload, encode payload = .ok frame →
        write .blocking payload s = (result.map fun _ => taken.length, t) := by
  refine ⟨s.exists_delivers frame, ?_⟩
  rintro taken left halt t rfl hdelivers
  have hwhole : taken = taken ++ left ↔ halt.isWhole = true := by
    obtain ⟨u, -, hhalts⟩ := hdelivers
    rw [← hhalts.left_eq_nil_iff, List.self_eq_append_right]
  rw [writeEncoded_of_delivers .blocking hdelivers]
  refine ⟨rfl, hdelivers.accepted_eq, ?_, ?_, ?_, ?_, ?_, fun error => WriteReport.result_of_error,
    WriteReport.result_ne_lost _, fun payload hencode => write_of_delivers _ hencode hdelivers⟩
  · rw [WriteReport.result_eq_ok_iff]
    constructor
    · rintro rfl
      exact ⟨hwhole.2 rfl, rfl⟩
    · exact And.right
  · rw [WriteReport.result_eq_timedOut_iff, List.length_eq_zero_iff]
  · intro n
    rw [WriteReport.result_eq_desynchronized_iff, List.length_pos_iff]
  · rintro error rfl
    exact hwhole.2 rfl
  · rintro rfl
    rfl

end Frame

end CommandChannel
