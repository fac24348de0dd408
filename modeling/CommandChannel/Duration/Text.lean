import CommandChannel.Decimal.Format
import CommandChannel.Duration

/-!
# Texts of spans of time

A span is written in two ways: with the largest unit of which it has at least one, and in seconds
as a floating-point number.
-/

namespace CommandChannel.Duration

/-- `whole`, then `part` of `10^places` as a fraction without the zeros at its end. -/
def withFraction (whole part places : Nat) : List Char :=
  let digits := decimalDigits part
  let padded := List.replicate (places - digits.length) '0' ++ digits
  match (padded.reverse.dropWhile (· == '0')).reverse with
  | [] => decimalDigits whole
  | fraction => decimalDigits whole ++ '.' :: fraction

/-- A span in seconds, milliseconds, microseconds or nanoseconds, whichever is the largest unit
that it reaches. -/
def unitText (d : Duration) : String :=
  let n := d.nanos
  String.ofList <|
    if nanosPerSecond ≤ n then
      withFraction (n / nanosPerSecond) (n % nanosPerSecond) 9 ++ ['s']
    else if 1000000 ≤ n then
      withFraction (n / 1000000) (n % 1000000) 6 ++ ['m', 's']
    else if 1000 ≤ n then
      withFraction (n / 1000) (n % 1000) 3 ++ ['µ', 's']
    else
      decimalDigits n ++ ['n', 's']

/-- A span in seconds, rounded to a floating-point number. -/
def toFloat (d : Duration) : Float :=
  d.seconds.toUInt64.toFloat + d.subsecondNanos.toUInt64.toFloat / 1e9

/-- The floating-point seconds of a span as text. -/
def secondsText (d : Duration) : String :=
  String.ofList (formatFloat .seconds d.toFloat)

end CommandChannel.Duration
