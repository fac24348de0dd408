import CommandChannel.Proofs.Courses

/-!
# Faults on a round trip

A round trip fails because a frame could not be written or read. None of these faults is one for
which a later attempt is of no use: that is said only of commands without a frame, which are never
on their way.
-/

namespace CommandChannel

/-- The only error that counts as a matter of time is time that was up with nothing transferred. -/
theorem ChannelError.isTimeout_iff {e : ChannelError} : e.isTimeout = true ↔ e = .timedOut := by
  cases e <;> simp [isTimeout]

namespace Frame

variable {e : ChannelError}

/-- More time may help, whether or not something had been transferred. -/
theorem isRecoverable_timeUp (transferred : Nat) : (timeUp transferred).isRecoverable = true := by
  unfold timeUp
  split <;> rfl

/-- Whatever a write fails for, it may be tried again later. -/
theorem isRecoverable_writeFault (error : IoError) (transferred : Nat) :
    (writeFault error transferred).isRecoverable = true := by
  unfold writeFault
  split
  · exact isRecoverable_timeUp transferred
  · rfl

/-- Whatever a read fails for, it may be tried again later. -/
theorem isRecoverable_readFault (error : IoError) (transferred : Nat) :
    (readFault error transferred).isRecoverable = true := by
  unfold readFault
  split
  · exact isRecoverable_timeUp transferred
  · split <;> rfl

/-- A frame that could not be written may be written later. -/
theorem isRecoverable_of_writeEncoded {frame : List UInt8} {s t : Outbound}
    (h : writeEncoded .blocking frame s = (.error e, t)) : e.isRecoverable = true := by
  unfold writeEncoded at h
  split at h
  · cases h
    rfl
  · cases h
    exact isRecoverable_writeFault _ _
  · split at h
    · cases h
    · cases h
      exact isRecoverable_writeFault _ _

/-- Bytes that could not be read may be read later, whether the stream ended or a read failed. -/
theorem isRecoverable_of_readExactly {want before : Nat} {s t : Inbound}
    (h : readExactly .blocking want before s = (.error e, t)) : e.isRecoverable = true := by
  unfold readExactly at h
  split at h
  · cases h
  · cases h
    rfl
  · cases h
    exact isRecoverable_readFault _ _

/-- A header that announces too little or too much says nothing about later frames. -/
theorem isRecoverable_of_bodyLength {bytes : List UInt8} (h : bodyLength bytes = .error e) :
    e.isRecoverable = true := by
  unfold bodyLength at h
  dsimp only at h
  split at h
  · cases h
    rfl
  · split at h
    · cases h
      rfl
    · cases h

/-- A body that could not be read may be followed by one that can. -/
theorem isRecoverable_of_readBody {s t : Inbound} (h : readBody .blocking s = (.error e, t)) :
    e.isRecoverable = true := by
  unfold readBody at h
  split at h
  · rename_i hheader
    cases h
    exact isRecoverable_of_readExactly hheader
  · split at h
    · rename_i hlength
      cases h
      exact isRecoverable_of_bodyLength hlength
    · exact isRecoverable_of_readExactly h

/-- A frame that could not be read may be followed by one that can. This includes frames that are
malformed. -/
theorem isRecoverable_of_read {α : Type} {format : Format α} {s t : Inbound}
    (h : read .blocking format s = (.error e, t)) : e.isRecoverable = true := by
  unfold read at h
  split at h
  · rename_i hbody
    cases h
    exact isRecoverable_of_readBody hbody
  · rename_i body _ _
    unfold parse at h
    split at h
    · cases h
    · cases h
      rfl

end Frame

namespace Link

variable {link link' : Link} {w w' : World} {e : ChannelError}

/-- What could not be written to a connection may be written later. -/
theorem isRecoverable_of_writeEncoded {frame : List UInt8}
    (h : link.writeEncoded frame w = (.error e, link', w')) : e.isRecoverable = true := by
  have hresult : (link.writeEncoded frame w).1 = .error e := by rw [h]
  exact Frame.isRecoverable_of_writeEncoded (s := { link.outbound with now := w.now })
    (Prod.ext hresult rfl)

/-- What could not be read from a connection may be read later. -/
theorem isRecoverable_of_read {α : Type} {format : Frame.Format α}
    (h : link.read format w = (.error e, link', w')) : e.isRecoverable = true := by
  have hresult : (link.read format w).1 = .error e := by rw [h]
  exact Frame.isRecoverable_of_read (s := { link.inbound with now := w.now })
    (Prod.ext hresult rfl)

end Link

namespace Channel

variable {frame : List UInt8} {trip : Trip} {s t : Channel} {e : ChannelError}

/-- A reply that could not be read may be followed by one that can. -/
theorem isRecoverable_of_readReply (h : s.readReply = (.error e, t)) : e.isRecoverable = true := by
  unfold readReply at h
  split at h
  · cases h
    rfl
  · split at h
    · rename_i hread
      cases h
      exact Link.isRecoverable_of_read hread
    · cases h

/-- Waiting for a reply in vain may be worth another try, whatever late replies were met. -/
theorem isRecoverable_of_awaitReply {late : Nat} (h : awaitReply late s = (.error e, t)) :
    e.isRecoverable = true := by
  fun_induction awaitReply late s with
  | case1 _ _ _ _ hread =>
    cases h
    exact isRecoverable_of_readReply hread
  | case2 => cases h
  | case3 _ _ _ _ _ _ ih => exact ih h

/-- A frame that could not be sent may be sent later. -/
theorem isRecoverable_of_sendFrame (h : s.sendFrame frame = (.error e, t)) :
    e.isRecoverable = true := by
  unfold sendFrame at h
  split at h
  · cases h
    rfl
  · split at h
    · rename_i hwrite
      cases h
      exact Link.isRecoverable_of_writeEncoded hwrite
    · cases h

/-- A command whose round trip failed may be sent again later. So no failure on the wire is reported
as one that lasts. -/
theorem Trip.Runs.isRecoverable (h : trip.Runs frame) (hresult : trip.result = .error e) :
    e.isRecoverable = true := by
  have hround := h.roundTrip_eq
  rw [hresult] at hround
  unfold roundTrip at hround
  split at hround
  · rename_i hsend
    cases hround
    exact isRecoverable_of_sendFrame hsend
  · exact isRecoverable_of_awaitReply hround

end Channel

end CommandChannel
