import CommandChannel.Frame.Transfer

/-!
# Frames by means of a carrier

An asynchronous reader or writer does not repeat anything itself. It asks a carrier for a number of
bytes, or to take all of them, and reports what the carrier reports.
-/

namespace CommandChannel

/-- What carries bytes between a caller and its streams: transfers of whole buffers, which wait
where nothing is ready. -/
structure Carrier where
  /-- Read exactly so many bytes. -/
  readExact : Nat → Inbound → Except IoError (List UInt8) × Inbound
  /-- Write all of the bytes. -/
  writeAll : List UInt8 → Outbound → Except IoError Unit × Outbound
  /-- Let the bytes that were written leave. -/
  flush : Outbound → Except IoError Unit × Outbound

/-- A carrier's report of reading a number of bytes. An early end is a failure with a text of the
carrier. -/
def Inbound.Fill.awaited (text : String) : Fill → Except IoError (List UInt8)
  | full bytes => .ok bytes
  | ended _ => .error ⟨.unexpectedEof, text⟩
  | failed error _ => .error error

/-- A carrier's report of writing a number of bytes. A write that takes nothing is a failure with a
text of the carrier. -/
def Outbound.Drain.awaited (text : String) : Drain → Except IoError Unit
  | whole => .ok ()
  | refused _ => .error ⟨.writeZero, text⟩
  | failed error _ => .error error

/-- The carrier that repeats reads and writes until nothing is missing. -/
def Carrier.repeating : Carrier where
  readExact want s := ((s.fill want).1.awaited "early eof", (s.fill want).2)
  writeAll bytes s := ((s.drain bytes).1.awaited IoKind.writeZero.description, (s.drain bytes).2)
  flush s := s.flush

namespace Frame

/-- Let a carrier read exactly `want` bytes of a frame. -/
def readExactlyVia (carrier : Carrier) (want : Nat) (s : Inbound) :
    Except ChannelError (List UInt8) × Inbound :=
  match carrier.readExact want s with
  | (.ok bytes, s) => (.ok bytes, s)
  | (.error error, s) => (.error (ReadReport.asynchronous.failed error 0), s)

/-- Let a carrier read the next frame. Returns what it holds. -/
def readVia {α : Type} (carrier : Carrier) (format : Format α) (s : Inbound) :
    Except ChannelError α × Inbound :=
  match readExactlyVia carrier headerSize s with
  | (.error e, s) => (.error e, s)
  | (.ok header, s) =>
    match bodyLength header with
    | .error e => (.error e, s)
    | .ok length =>
      match readExactlyVia carrier length s with
      | (.error e, s) => (.error e, s)
      | (.ok body, s) => (parse format body, s)

/-- Let a carrier write the frame of a payload. Returns its size. -/
def writeVia (carrier : Carrier) (payload : Payload) (s : Outbound) :
    Except ChannelError Nat × Outbound :=
  match encode payload with
  | .error e => (.error e, s)
  | .ok frame =>
    match carrier.writeAll frame s with
    | (.error error, s) => (.error (.io error), s)
    | (.ok (), s) =>
      match carrier.flush s with
      | (.error error, s) => (.error (.io error), s)
      | (.ok (), s) => (.ok frame.length, s)

end Frame

end CommandChannel
