import CommandChannel.Link.Transfer
import CommandChannel.Proofs.Account

/-!
# Frames that are written

A connection takes the beginning of a frame that is written to it, and how much it took decides
what is reported: all of the frame after a success, nothing of it where time was up and the
connection may be kept. No failure to write is reported as a loss of the connection.
-/

namespace CommandChannel

namespace Outbound

/-- A write takes as many bytes from the front as it reports, and no more than there are. -/
theorem accepted_write {s t : Outbound} {bytes : List UInt8} {count : Nat}
    (h : s.write bytes = (.ok count, t)) :
    count ≤ bytes.length ∧ t.accepted = s.accepted ++ bytes.take count := by
  unfold write at h
  split at h
  · cases h
  · split at h
    · cases h
      simp [accept]
    · cases h
      exact ⟨List.length_take_le' _ _, by simp [accept]⟩
    · cases h
    · cases h

/-- A write that fails takes nothing, also if time was up in it. -/
theorem accepted_write_of_error {s t : Outbound} {bytes : List UInt8} {error : IoError}
    (h : s.write bytes = (.error error, t)) : t.accepted = s.accepted := by
  unfold write at h
  split at h
  · cases h; rfl
  · split at h <;> cases h <;> rfl

/-- A flush takes nothing, as the bytes were taken before. -/
@[simp] theorem accepted_flush (s : Outbound) : s.flush.2.accepted = s.accepted := by
  unfold flush
  split <;> rfl

/-- How many of so many bytes were taken. -/
def Drain.count (total : Nat) : Drain → Nat
  | whole => total
  | refused count => count
  | failed _ count => count

/-- What was taken before is counted with what the outcome counts. -/
theorem Drain.count_after (outcome : Drain) (before total : Nat) :
    (outcome.after before).count (before + total) = before + outcome.count total := by
  cases outcome <;> rfl

/-- However a stream takes its bytes, they are those from the front that the outcome counts. The
induction is on the bytes and the events that are left. -/
theorem accepted_drain (s : Outbound) (bytes : List UInt8) :
    (s.drain bytes).2.accepted =
      s.accepted ++ bytes.take ((s.drain bytes).1.count bytes.length) := by
  fun_induction drain s bytes with
  | case1 s => simp
  | case2 s bytes _ t h =>
    simpa [Drain.count] using (accepted_write h).2
  | case3 s bytes _ count t h outcome u hdrain ih =>
    obtain ⟨hcount, htaken⟩ := accepted_write h
    have hlength : bytes.length = count + 1 + (bytes.drop (count + 1)).length := by
      rw [List.length_drop]
      omega
    rw [hdrain] at ih
    rw [ih, htaken, List.append_assoc, hlength, Drain.count_after, List.take_add]
  | case4 s bytes _ error t h _ ih =>
    rw [ih, accepted_write_of_error h]
  | case5 s bytes _ error t h _ =>
    simpa [Drain.count] using accepted_write_of_error h

end Outbound

/-- A blocking writer that breaks off is never told that the connection is lost, so that nothing is
sent again for it. -/
theorem Frame.isLoss_writeFault (error : IoError) (transferred : Nat) :
    (Frame.writeFault error transferred).isLoss = false := by
  unfold Frame.writeFault Frame.timeUp
  split
  · split <;> rfl
  · rfl

/-- A blocking writer is told that time was up only if nothing was transferred. -/
theorem Frame.transferred_of_isTimeout_writeFault {error : IoError} {transferred : Nat}
    (h : (Frame.writeFault error transferred).isTimeout = true) : transferred = 0 := by
  unfold Frame.writeFault Frame.timeUp at h
  split at h
  · split at h
    · assumption
    · cases h
  · cases h

/-- What a blocking writer may report when `taken` was taken of a frame: a success if it was the
whole frame, otherwise a failure that is no loss, and a clean timeout only if it was nothing. -/
def Frame.Reports (frame taken : List UInt8) : Except ChannelError Unit → Prop
  | .ok () => taken = frame
  | .error e => e.isLoss = false ∧ (e.isTimeout = true → taken = [])

/-- A blocking write of a frame takes a beginning of it and reports accordingly. Frames are not
empty, so that a flush that fails in time is no clean timeout. -/
theorem Frame.exists_taken_of_writeEncoded {frame : List UInt8} (hframe : frame ≠ [])
    (s : Outbound) :
    ∃ taken, taken <+: frame ∧
      (Frame.writeEncoded .blocking frame s).2.accepted = s.accepted ++ taken ∧
      Frame.Reports frame taken (Frame.writeEncoded .blocking frame s).1 := by
  have haccepted := s.accepted_drain frame
  unfold Frame.writeEncoded
  split <;> rename_i heq <;> rw [heq] at haccepted
  · refine ⟨_, List.take_prefix _ _, haccepted, rfl, ?_⟩
    intro h
    cases h
  · refine ⟨_, List.take_prefix _ _, haccepted, Frame.isLoss_writeFault _ _, ?_⟩
    intro h
    simp [Outbound.Drain.count, Frame.transferred_of_isTimeout_writeFault h]
  · rename_i t
    have hflush := t.accepted_flush
    simp only [Outbound.Drain.count, List.take_length] at haccepted
    split <;> rename_i hreport <;> rw [hreport] at hflush
    · exact ⟨frame, List.prefix_rfl, hflush.trans haccepted, rfl⟩
    · refine ⟨frame, List.prefix_rfl, hflush.trans haccepted, Frame.isLoss_writeFault _ _, ?_⟩
      intro h
      exact absurd (List.length_eq_zero_iff.1 (Frame.transferred_of_isTimeout_writeFault h)) hframe

/-- The frame of a payload is never empty: it begins with its length. -/
theorem Frame.ne_nil_of_encode {payload : Payload} {frame : List UInt8}
    (h : Frame.encode payload = .ok frame) : frame ≠ [] := by
  unfold Frame.encode at h
  cases htext : payload.text with
  | error e =>
    rw [htext] at h
    cases h
  | ok text =>
    rw [htext] at h
    simp only [bind, Except.bind] at h
    split at h
    · cases h
    · cases h
      simp [Frame.ofBody, Frame.header]

namespace Link

/-- A connection took `taken` of a frame that was written to it, and became `link'` in the world
`w'`. -/
structure Writes (frame taken : List UInt8) (link : Link) (w : World) (link' : Link) (w' : World) :
    Prop where
  /-- A beginning of the frame was taken. -/
  taken_prefix : taken <+: frame
  /-- It is the same connection still. -/
  number_eq : link'.number = link.number
  /-- What was taken comes after what was taken before. -/
  accepted_eq : link'.outbound.accepted = link.outbound.accepted ++ taken
  made_eq : w'.made = w.made
  /-- The frame and the bytes are noted in the account of this connection only. -/
  account_eq : ∀ c, w'.account c =
    if link.number = c then ((w.account c).offer frame).take taken else w.account c
  /-- The frame is noted as offered, however much of it was taken. -/
  tally_eq : w'.tally = w.tally.offer link.number frame

/-- What is recorded of a write are the bytes that the connection took, even if none of them are. -/
theorem account_recordWrite {link : Link} {before : Outbound} {taken : List UInt8}
    (h : link.outbound.accepted = before.accepted ++ taken) (w : World) (c : Nat) :
    (link.recordWrite before w).account c =
      if link.number = c then (w.account c).take taken else w.account c := by
  unfold recordWrite
  rw [h, List.drop_left]
  cases taken with
  | nil => simp
  | cons b bytes => rfl

/-- What is recorded of a write offers no frame. The frame was offered before it. -/
theorem tally_recordWrite (link : Link) (before : Outbound) (w : World) :
    (link.recordWrite before w).tally = w.tally := by
  unfold recordWrite
  split <;> rfl

/-- Recording a write makes no connection, whether bytes were taken or not. -/
theorem made_recordWrite (link : Link) (before : Outbound) (w : World) :
    (link.recordWrite before w).made = w.made := by
  unfold recordWrite
  split <;> rfl

/-- Writing a frame to a connection takes a beginning of it, and reports as a writer to its stream
does. -/
theorem exists_writes_of_writeEncoded {frame : List UInt8} (hframe : frame ≠ []) (link : Link)
    (w : World) :
    ∃ taken, link.Writes frame taken w (link.writeEncoded frame w).2.1
        (link.writeEncoded frame w).2.2 ∧
      Frame.Reports frame taken (link.writeEncoded frame w).1 := by
  obtain ⟨taken, hbeginning, haccepted, hreports⟩ :=
    Frame.exists_taken_of_writeEncoded hframe { link.outbound with now := w.now }
  refine ⟨taken, ⟨hbeginning, rfl, haccepted, made_recordWrite .., ?_, tally_recordWrite ..⟩,
    hreports⟩
  intro c
  -- Only the frame that was offered is recorded before the write; the moment does not matter.
  have hoffered (now : Duration) :
      ({ w.record (.offered link.number frame) with now } : World).account c =
        if link.number = c then (w.account c).offer frame else w.account c := rfl
  refine (account_recordWrite haccepted _ c).trans ?_
  by_cases hc : link.number = c
  · rw [if_pos hc, if_pos hc, hoffered, if_pos hc]
  · rw [if_neg hc, if_neg hc, hoffered, if_neg hc]

/-- A payload that has a frame is written as that frame. -/
theorem writes_of_encode {payload : Payload} {frame : List UInt8}
    (hencode : Frame.encode payload = .ok frame) (link : Link) (w : World) :
    ∃ taken, link.Writes frame taken w (link.write payload w).2.1 (link.write payload w).2.2 := by
  obtain ⟨taken, hwrites, -⟩ :=
    exists_writes_of_writeEncoded (Frame.ne_nil_of_encode hencode) link w
  refine ⟨taken, ?_⟩
  unfold write
  rw [hencode]
  rcases hwritten : link.writeEncoded frame w with ⟨_ | _, link', w'⟩ <;> rw [hwritten] at hwrites
  · simpa only [hwritten] using hwrites
  · simpa only [hwritten] using hwrites

end Link

end CommandChannel
