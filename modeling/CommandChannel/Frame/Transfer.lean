import CommandChannel.Frame.Basic
import CommandChannel.Stream.Inbound
import CommandChannel.Stream.Outbound

/-!
# Frames on streams

A frame is read and written byte by byte until it is complete. What is reported of a transfer that
breaks off depends on who waits: a blocking caller is told whether any byte of the frame had
passed when time was up, an asynchronous one has no time limit of its own.
-/

namespace CommandChannel

namespace Frame

/-- What is reported of a read that breaks off. -/
structure ReadReport where
  /-- The stream ended. -/
  ended : ChannelError
  /-- A read failed when so many bytes of the frame had been read. -/
  failed : IoError → Nat → ChannelError

/-- What is reported of a write that breaks off. -/
structure WriteReport where
  /-- A write took nothing. -/
  refused : ChannelError
  /-- A write or a flush failed when so many bytes of the frame had been written. -/
  failed : IoError → Nat → ChannelError

/-- Time was up when so many bytes of a frame had passed. -/
def timeUp (transferred : Nat) : ChannelError :=
  if transferred = 0 then .timedOut else .desynchronized transferred

/-- The kinds of failures that break a connection while it is read. -/
def breaksReading : IoKind → Bool
  | .unexpectedEof | .connectionReset | .connectionAborted | .brokenPipe => true
  | _ => false

/-- The report of a failed read to a blocking caller. -/
def readFault (error : IoError) (transferred : Nat) : ChannelError :=
  if error.kind.isTimeout then timeUp transferred
  else if breaksReading error.kind then .lost error.text
  else .io error

/-- The report of a failed write to a blocking caller. -/
def writeFault (error : IoError) (transferred : Nat) : ChannelError :=
  if error.kind.isTimeout then timeUp transferred else .io error

/-- Reports to a blocking reader. -/
def ReadReport.blocking : ReadReport := ⟨.lost "peer closed the connection", readFault⟩

/-- Reports to a blocking writer. -/
def WriteReport.blocking : WriteReport :=
  ⟨.io ⟨.writeZero, "failed to write whole frame"⟩, writeFault⟩

/-- Reports to an asynchronous reader. -/
def ReadReport.asynchronous : ReadReport where
  ended := .lost "early eof"
  failed error _ :=
    match error.kind with
    | .unexpectedEof | .connectionReset | .connectionAborted => .lost error.text
    | _ => .io error

/-- Reports to an asynchronous writer. -/
def WriteReport.asynchronous : WriteReport :=
  ⟨.io IoKind.writeZero.error, fun error _ => .io error⟩

/-- Read exactly `want` bytes of a frame of which `before` bytes have been read. -/
def readExactly (report : ReadReport) (want before : Nat) (s : Inbound) :
    Except ChannelError (List UInt8) × Inbound :=
  match s.fill want with
  | (.full bytes, s) => (.ok bytes, s)
  | (.ended _, s) => (.error report.ended, s)
  | (.failed error count, s) => (.error (report.failed error (before + count)), s)

/-- Read the body of the next frame. -/
def readBody (report : ReadReport) (s : Inbound) : Except ChannelError (List UInt8) × Inbound :=
  match readExactly report headerSize 0 s with
  | (.error e, s) => (.error e, s)
  | (.ok header, s) =>
    match bodyLength header with
    | .error e => (.error e, s)
    | .ok length => readExactly report length headerSize s

/-- Read the next frame. Returns what it holds and its size with its header. -/
def read {α : Type} (report : ReadReport) (format : Format α) (s : Inbound) :
    Except ChannelError (α × Nat) × Inbound :=
  match readBody report s with
  | (.error e, s) => (.error e, s)
  | (.ok body, s) => ((parse format body).map fun v => (v, headerSize + body.length), s)

/-- Write a frame that is given as a whole. -/
def writeEncoded (report : WriteReport) (frame : List UInt8) (s : Outbound) :
    Except ChannelError Unit × Outbound :=
  match s.drain frame with
  | (.refused _, s) => (.error report.refused, s)
  | (.failed error count, s) => (.error (report.failed error count), s)
  | (.whole, s) =>
    match s.flush with
    | (.ok (), s) => (.ok (), s)
    | (.error error, s) => (.error (report.failed error frame.length), s)

/-- Write the frame of a payload. Returns its size. -/
def write (report : WriteReport) (payload : Payload) (s : Outbound) :
    Except ChannelError Nat × Outbound :=
  match encode payload with
  | .error e => (.error e, s)
  | .ok frame =>
    match writeEncoded report frame s with
    | (.ok (), s) => (.ok frame.length, s)
    | (.error e, s) => (.error e, s)

end Frame

end CommandChannel
