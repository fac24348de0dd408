import CommandChannel.Frame.Transfer
import CommandChannel.Link.Basic

/-!
# Frames over a connection

A frame that is read or written takes its time from the world and leaves its trace there: what was
offered to the connection, and the bytes that left.
-/

namespace CommandChannel

namespace Link

/-- Read the next frame. Returns what it holds and its size. -/
def read {α : Type} (format : Frame.Format α) (link : Link) (w : World) :
    Except ChannelError (α × Nat) × Link × World :=
  match Frame.read .blocking format { link.inbound with now := w.now } with
  | (result, inbound) => (result, { link with inbound }, { w with now := inbound.now })

/-- The bytes that a connection took since an earlier moment are recorded, if there are any. -/
def recordWrite (link : Link) (before : Outbound) (w : World) : World :=
  match link.outbound.accepted.drop before.accepted.length with
  | [] => w
  | bytes => w.record (.write link.number bytes)

/-- Write a frame that is given as a whole. -/
def writeEncoded (frame : List UInt8) (link : Link) (w : World) :
    Except ChannelError Unit × Link × World :=
  let w := w.record (.offered link.number frame)
  match Frame.writeEncoded .blocking frame { link.outbound with now := w.now } with
  | (result, outbound) =>
    let written := { link with outbound }
    (result, written, recordWrite written link.outbound { w with now := outbound.now })

/-- Write the frame of a payload. Returns its size. -/
def write (payload : Payload) (link : Link) (w : World) :
    Except ChannelError Nat × Link × World :=
  match Frame.encode payload with
  | .error e => (.error e, link, w)
  | .ok frame =>
    match link.writeEncoded frame w with
    | (.ok (), link, w) => (.ok frame.length, link, w)
    | (.error e, link, w) => (.error e, link, w)

/-- Shut a connection down. Nothing passes any longer, even if an error is reported. -/
def shutdown (link : Link) (w : World) : Except IoError Unit × Link × World :=
  let closed := { link with
    inbound := { link.inbound with closed := true }
    outbound := { link.outbound with closed := true } }
  let result := match link.faults.shutdown with
    | some error => .error error
    | none => .ok ()
  (result, closed, w.record (.shutdown link.number))

end Link

end CommandChannel
