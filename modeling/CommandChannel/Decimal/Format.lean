import CommandChannel.Decimal.Shortest
import CommandChannel.Text.Digits

/-!
# Texts of decimal numbers

A decimal is written positionally or with an exponent, as a style says. The two styles in use are
the one of numbers in JSON texts and the one of seconds in messages.
-/

namespace CommandChannel

/-- How decimals are written. -/
structure DecimalStyle where
  /-- The exponent of the first digit is one of those written positionally. -/
  positional : Int → Bool
  /-- What follows a whole number that is written positionally. -/
  wholeMark : List Char
  /-- Which one of two equally near shortest decimals is written. -/
  ties : TieRule

/-- Numbers in JSON: positional from `10^-5` up to `10^16`, and marked as fractional throughout. -/
def DecimalStyle.json : DecimalStyle := ⟨fun e => -5 ≤ e && e < 16, ['.', '0'], .even⟩

/-- Seconds in messages: always positional, whole numbers without a point. -/
def DecimalStyle.seconds : DecimalStyle := ⟨fun _ => true, [], .up⟩

namespace Decimal

/-- Positional notation. -/
def positional (wholeMark : List Char) (d : Decimal) : List Char :=
  let ds := decimalDigits d.digits
  if 0 ≤ d.exponent then
    ds ++ List.replicate d.exponent.toNat '0' ++ wholeMark
  else
    let places := (-d.exponent).toNat
    if places < ds.length then
      ds.take (ds.length - places) ++ '.' :: ds.drop (ds.length - places)
    else
      '0' :: '.' :: List.replicate (places - ds.length) '0' ++ ds

/-- The exponent of the first digit. -/
def leadingExponent (d : Decimal) : Int :=
  d.exponent + (decimalDigits d.digits).length - 1

/-- Notation with one digit before the point and a signed exponent. -/
def scientific (d : Decimal) : List Char :=
  let e := d.leadingExponent
  let mark := 'e' :: (if e < 0 then integerDigits e else '+' :: integerDigits e)
  match decimalDigits d.digits with
  | [] => mark
  | [c] => c :: mark
  | c :: cs => c :: '.' :: cs ++ mark

/-- The text of a decimal in a style. -/
def format (style : DecimalStyle) (d : Decimal) : List Char :=
  if style.positional d.leadingExponent then d.positional style.wholeMark else d.scientific

end Decimal

/-- The bit of a floating-point number that is set if the number is negative. -/
def signBit : Nat := Nat.pow 2 63

/-- The text of a finite floating-point number: a sign, then its shortest decimal. -/
def formatFloat (style : DecimalStyle) (x : Float) : List Char :=
  let bits := x.toBits
  let magnitude := bits.toNat % signBit
  let text :=
    if magnitude = 0 then '0' :: style.wholeMark
    else ((Binary.ofBits bits).shortest style.ties).format style
  if bits.toNat < signBit then text else '-' :: text

end CommandChannel
