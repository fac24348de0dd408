import CommandChannel.Json.Basic
import CommandChannel.Json.Token

/-!
# Numbers in JSON texts

A number without fraction and exponent is an integer if it fits in 64 bits. Any other is a
floating-point number: its digits are gathered while they fit in 64 bits, later digits only shift
the exponent or are left out, and one multiplication or division by a power of ten gives the value.
-/

namespace CommandChannel

namespace Json

/-- Significands fit in 64 bits. -/
def significandBound : Nat := Nat.pow 2 64

/-- Negative integers go down to the negative of this. -/
def negativeBound : Nat := Nat.pow 2 63

/-- Written exponents fit in 31 bits. -/
def exponentBound : Nat := Nat.pow 2 31

/-- Exponents are kept in 32 bits with their sign. -/
def clampExponent (e : Int) : Int :=
  if e < -exponentBound then -exponentBound
  else if exponentBound ≤ e then exponentBound - 1
  else e

/-- `value · 10^exponent`, or nothing if that is too large. The largest power of ten that is used
is `10^308`; a few divisions by it bring every 64-bit number to zero. -/
def scaled (value : Float) (exponent : Int) : Nat → Option Float
  | 0 => some value
  | fuel + 1 =>
    if exponent.natAbs ≤ 308 then
      let power := Float.ofScientific 1 false exponent.natAbs
      if 0 ≤ exponent then
        let product := value * power
        if product.isInf then none else some product
      else
        some (value / power)
    else if value == 0 then some value
    else if 0 ≤ exponent then none
    else scaled (value / Float.ofScientific 1 false 308) (exponent + 308) fuel

/-- The floating-point number of a sign, a significand and an exponent. -/
def floatOfParts (negative : Bool) (significand : Nat) (exponent : Int) : Option Float :=
  (scaled significand.toUInt64.toFloat exponent 4).map fun x => if negative then -x else x

/-- The floating-point number of the given parts, before what remains of the text. -/
def finishFloat (negative : Bool) (significand : Nat) (exponent : Int) : JsonReader Json :=
  fun rest =>
    match floatOfParts negative significand exponent with
    | some x => .ok (.float x, rest)
    | none => .error (.before rest .numberOutOfRange)

/-- The integer of a sign and a significand; one that does not fit in 64 bits, and negative zero,
are floating-point numbers. -/
def integerOfParts (negative : Bool) (significand : Nat) : Json :=
  if negative then
    if 0 < significand ∧ significand ≤ negativeBound then .int (-significand)
    else .float (-significand.toUInt64.toFloat)
  else .int significand

/-- Digits at the beginning, gathered after `value` as long as the result stays below `bound`, and
their number after `count`. -/
def gather (bound value count : Nat) : List UInt8 → Nat × Nat × List UInt8
  | [] => (value, count, [])
  | b :: rest =>
    match Byte.digit? 10 b with
    | some digit =>
      if value * 10 + digit < bound then gather bound (value * 10 + digit) (count + 1) rest
      else (value, count, b :: rest)
    | none => (value, count, b :: rest)

/-- The text begins with a digit. -/
def startsWithDigit : List UInt8 → Bool
  | [] => false
  | b :: _ => Byte.isDigit b

/-- The digits of an exponent. One that is out of range makes the number zero if it is negative or
if the significand is zero; the digit that takes it out of range is then already read. -/
def readExponentDigits (negative : Bool) (significand : Nat) (start : Int) (down : Bool) :
    JsonReader Json
  | [] => .error (.before [] .endInValue)
  | b :: rest =>
    match Byte.digit? 10 b with
    | none => .error (.before rest .invalidNumber)
    | some digit =>
      let (written, _, rest) := gather exponentBound digit 1 rest
      if startsWithDigit rest then
        if significand ≠ 0 ∧ !down then
          .error (.before (rest.drop 1) .numberOutOfRange)
        else
          .ok (.float (if negative then -0.0 else 0.0), rest.dropWhile Byte.isDigit)
      else
        let exponent := if down then start - written else start + written
        finishFloat negative significand (clampExponent exponent) rest

/-- An exponent after its letter. -/
def readExponent (negative : Bool) (significand : Nat) (start : Int) : JsonReader Json
  | Byte.plus :: rest => readExponentDigits negative significand start false rest
  | Byte.minus :: rest => readExponentDigits negative significand start true rest
  | rest => readExponentDigits negative significand start false rest

/-- What may follow the digits of a fraction, or those of a long integer without one. -/
def readAfterDigits (negative : Bool) (significand : Nat) (exponent : Int) : JsonReader Json
  | Byte.lowerE :: rest => readExponent negative significand exponent rest
  | Byte.upperE :: rest => readExponent negative significand exponent rest
  | rest => finishFloat negative significand exponent rest

/-- A fraction after its point. -/
def readFraction (negative : Bool) (significand : Nat) (exponent : Int) : JsonReader Json :=
  fun bytes =>
    let (significand, count, rest) := gather significandBound significand 0 bytes
    if startsWithDigit rest then
      readAfterDigits negative significand (exponent - count) (rest.dropWhile Byte.isDigit)
    else if count = 0 then
      .error (.onNext rest (if rest.isEmpty then .endInValue else .invalidNumber))
    else
      readAfterDigits negative significand (exponent - count) rest

/-- What may follow an integer part that is known to be a floating-point number. -/
def readAfterLongInteger (negative : Bool) (significand : Nat) (exponent : Int) : JsonReader Json
  | Byte.point :: rest => readFraction negative significand exponent rest
  | rest => readAfterDigits negative significand exponent rest

/-- What may follow an integer part of which every digit was gathered. -/
def readAfterInteger (negative : Bool) (significand : Nat) : JsonReader Json
  | Byte.point :: rest => readFraction negative significand 0 rest
  | Byte.lowerE :: rest => readExponent negative significand 0 rest
  | Byte.upperE :: rest => readExponent negative significand 0 rest
  | rest => .ok (integerOfParts negative significand, rest)

/-- A number after its sign. -/
def readNumber (negative : Bool) : JsonReader Json
  | [] => .error (.before [] .endInValue)
  | b :: rest =>
    match Byte.digit? 10 b with
    | none => .error (.before rest .invalidNumber)
    | some 0 =>
      if startsWithDigit rest then .error (.onNext rest .invalidNumber)
      else readAfterInteger negative 0 rest
    | some digit =>
      let (significand, _, rest) := gather significandBound digit 1 rest
      if startsWithDigit rest then
        let dropped := (rest.takeWhile Byte.isDigit).length
        readAfterLongInteger negative significand dropped (rest.drop dropped)
      else
        readAfterInteger negative significand rest

end Json

end CommandChannel
