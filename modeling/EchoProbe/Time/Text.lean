import EchoProbe.Decimal.Binary64
import EchoProbe.Time

/-!
# Durations in text and in floating point

A duration is written in the greatest of the units s, ms, µs and ns of which it holds
at least one, with as many places as it needs. In floating point it is a number of
seconds or of milliseconds.
-/

namespace EchoProbe.Duration

/-- The places of a fraction of `width` digits, without zeros at the end. -/
def fractionText (width fraction : Nat) : String :=
  if fraction = 0 then ""
  else
    let digits := (Text.zeroPadded width (toString fraction)).toList
    "." ++ String.ofList (digits.reverse.dropWhile (· = '0')).reverse

instance : ToString Duration where
  toString d :=
    let inUnit (unit width : Nat) (name : String) :=
      toString (d.nanos / unit) ++ fractionText width (d.nanos % unit) ++ name
    if 1000000000 ≤ d.nanos then inUnit 1000000000 9 "s"
    else if 1000000 ≤ d.nanos then inUnit 1000000 6 "ms"
    else if 1000 ≤ d.nanos then inUnit 1000 3 "µs"
    else inUnit 1 0 "ns"

/-- The duration in seconds: the whole seconds and the fraction are rounded apart and
    then added. -/
def toFloatSeconds (d : Duration) : Float :=
  (UInt64.ofNat d.seconds).toFloat + (UInt64.ofNat d.subsecNanos).toFloat / 1e9

/-- The duration in milliseconds. -/
def toFloatMillis (d : Duration) : Float := d.toFloatSeconds * 1000.0

/-- The duration nearest to a number of seconds; `none` if the number is negative, not
    a number or too great. -/
def ofFloatSeconds? (x : Float) : Option Duration :=
  if x < 0.0 then none
  else (Binary64.magnitude? x).bind fun (num, den) =>
    ofNanos? (Decimal.roundDiv (num * 1000000000) den)

end EchoProbe.Duration
