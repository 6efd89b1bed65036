import SyncWatch.Decimal.Nearest

/-!
# Decimal texts read as floating point numbers

A decimal is read as a 64-bit significand and a power of ten, and its value is
the significand, rounded once, multiplied or divided by the power of ten,
rounded again.  A power beyond the largest finite one is applied in two steps.
-/

namespace SyncWatch
namespace Decimal

/-- The largest power of ten below the largest finite number. -/
def largestPower : Nat := 308

/-- The floating point number nearest to a power of ten. -/
def powerOfTen (power : Nat) : Float :=
  (nearest? 1 power).getD 0

/-- The value of `significand * 10 ^ exponent`, or nothing when it is too large. -/
def scaled? (significand : Nat) (exponent : Int) : Option Float :=
  let value := Float.ofNat significand
  let power := exponent.natAbs
  if 0 ≤ exponent then
    if power ≤ largestPower then
      let product := value * powerOfTen power
      if product.isInf then none else some product
    else if significand == 0 then
      some 0
    else
      none
  else if power ≤ largestPower then
    some (value / powerOfTen power)
  else if power ≤ 2 * largestPower then
    some (value / powerOfTen largestPower / powerOfTen (power - largestPower))
  else
    some 0

end Decimal
end SyncWatch
