import EchoProbe.Decimal

/-!
# The exact value of a floating-point number

A finite 64-bit number is a whole number times a power of two. `magnitude?` gives it
as a fraction, so that rounding and printing need no floating-point arithmetic.
-/

namespace EchoProbe.Binary64

/-- Whether the sign bit is set. -/
def isNegative (x : Float) : Bool := x.toBits.toNat / 9223372036854775808 = 1

/-- The absolute value as numerator and denominator; `none` for infinities and
    not-a-numbers. -/
def magnitude? (x : Float) : Option (Nat × Nat) :=
  let bits := x.toBits.toNat
  let exponent := bits / 4503599627370496 % 2048
  let fraction := bits % 4503599627370496
  if exponent = 2047 then none
  else
    -- The value is `significand * 2 ^ (scale - 1075)`.
    let significand := if exponent = 0 then fraction else fraction + 4503599627370496
    let scale := max exponent 1
    if 1075 ≤ scale then some (significand * Nat.pow 2 (scale - 1075), 1)
    else some (significand, Nat.pow 2 (1075 - scale))

/-- The number with a fixed number of places, correctly rounded. -/
def fixed (places : Nat) (x : Float) : String :=
  match magnitude? x with
  | some (num, den) => (if isNegative x then "-" else "") ++ Decimal.fixed places num den
  | none => if x.isNaN then "NaN" else if isNegative x then "-inf" else "inf"

end EchoProbe.Binary64
