import CommandChannel.Message.Payload
import CommandChannel.Message.Reader

/-!
# Frames

A frame is a body with its length in front, in four bytes, the most significant first. The length
is checked before the body is looked at: it is never zero and never above the limit.
-/

namespace CommandChannel

namespace Frame

/-- The number of bytes of the length in front of a body. -/
def headerSize : Nat := 4

/-- The greatest length of a body. -/
def sizeLimit : Nat := 100 * 1024 * 1024

/-- A length in four bytes. -/
def header (length : Nat) : List UInt8 :=
  [UInt8.ofNat (length / 16777216), UInt8.ofNat (length / 65536), UInt8.ofNat (length / 256),
    UInt8.ofNat length]

/-- The length that bytes in front of a body stand for. -/
def headerValue (bytes : List UInt8) : Nat := bytes.foldl (fun n b => 256 * n + b.toNat) 0

/-- The frame of a body. -/
def ofBody (body : List UInt8) : List UInt8 := header body.length ++ body

/-- The frame of a payload. -/
def encode (payload : Payload) : Except ChannelError (List UInt8) := do
  let body := utf8 (← payload.text)
  if sizeLimit < body.length then .error (.oversized body.length sizeLimit)
  else .ok (ofBody body)

/-- The length of the body that four bytes announce. -/
def bodyLength (bytes : List UInt8) : Except ChannelError Nat :=
  let length := headerValue bytes
  if length = 0 then .error (.malformed "empty frame")
  else if sizeLimit < length then .error (.oversized length sizeLimit)
  else .ok length

/-- What can be read from a body. -/
abbrev Format (α : Type) := List UInt8 → Except JsonFault α

/-- What a body holds. -/
def parse {α : Type} (format : Format α) (body : List UInt8) : Except ChannelError α :=
  match format body with
  | .ok v => .ok v
  | .error fault => .error (.malformed ("invalid JSON: " ++ fault.report body))

/-- What a frame holds that is given as a whole. -/
def decode {α : Type} (format : Format α) (frame : List UInt8) : Except ChannelError α := do
  if frame.length < headerSize then
    .error (.malformed ("frame too short: expected at least " ++ toString headerSize ++
      " bytes, got " ++ toString frame.length))
  else
    let length ← bodyLength (frame.take headerSize)
    let body := frame.drop headerSize
    if body.length = length then parse format body
    else
      .error (.malformed ("length mismatch: prefix says " ++ toString length ++ " bytes, got " ++
        toString body.length))

end Frame

end CommandChannel
