import SyncWatch.Decimal.Dyadic
import SyncWatch.Decimal.Rounding

/-!
# The nearest floating point number

A positive quotient lies between two neighbouring multiples of the power of two
that gives it 53 bits, or of the least power of two when it is too small for
that.  It goes to the nearer one, and half way to the one with the even
significand.
-/

namespace SyncWatch
namespace Decimal

/-- The power of two of the leading bit of a positive quotient. -/
def leadingExponent (numerator denominator : Nat) : Int :=
  let estimate : Int := numerator.log2 - denominator.log2
  if denominator * Nat.pow 2 estimate.toNat ≤ numerator * Nat.pow 2 (-estimate).toNat then estimate
  else estimate - 1

namespace Dyadic

/-- The dyadic number of at most 53 bits that is nearest to a positive quotient. -/
def ofQuotient (numerator denominator : Nat) : Dyadic :=
  let exponent := max (leadingExponent numerator denominator - 52) leastExponent
  { negative := false
    significand := TieRule.toEven.round (numerator * Nat.pow 2 (-exponent).toNat)
      (denominator * Nat.pow 2 exponent.toNat)
    exponent }

/-- The floating point number with a significand of at most 53 bits, or nothing
when it is too large.  The leading bit of the significand adds one to the
exponent field, and so does a significand that was rounded up to 54 bits. -/
def toFloat? (number : Dyadic) : Option Float :=
  let bits := (number.exponent - leastExponent).toNat * leadingBit + number.significand
  let sign := if number.negative then Nat.pow 2 63 else 0
  if bits < 2047 * leadingBit then some (Float.ofBits (UInt64.ofNat (sign + bits))) else none

end Dyadic

/-- Every positive decimal below ten to the negative of this power is nearest to
zero, and every decimal from ten to this power on is too large. -/
def decimalRange : Int := 400

/-- The finite floating point number nearest to `digits * 10 ^ exponent`, or
nothing when it is too large. -/
def nearest? (digits : Nat) (exponent : Int) : Option Float :=
  let size := exponent + (toString digits).length
  if digits == 0 || size < -decimalRange then some 0
  else if decimalRange < size then none
  else
    (Dyadic.ofQuotient (digits * Nat.pow 10 exponent.toNat)
      (Nat.pow 10 (-exponent).toNat)).toFloat?

end Decimal
end SyncWatch
