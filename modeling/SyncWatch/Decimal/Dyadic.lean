/-!
# Floating point numbers as dyadic fractions

A finite binary64 number is `significand * 2 ^ exponent` with a sign.  All
decimal texts in this library are computed from this form in exact integer
arithmetic.
-/

namespace SyncWatch
namespace Decimal

/-- A number `significand * 2 ^ exponent`, negated when `negative` is set. -/
structure Dyadic where
  /-- Whether the sign bit is set. -/
  negative : Bool
  /-- The integer significand. -/
  significand : Nat
  /-- The power of two that scales the significand. -/
  exponent : Int
  deriving DecidableEq, Repr

namespace Dyadic

/-- The significand of the numbers with the full precision of 53 bits starts here. -/
def leadingBit : Nat := Nat.pow 2 52

/-- The exponent of the numbers nearest to zero. -/
def leastExponent : Int := -1074

/-- The dyadic form of a finite number, read from its bits. -/
def ofFloat? (number : Float) : Option Dyadic :=
  let bits := number.toBits.toNat
  let fraction := bits % leadingBit
  let biased := bits / leadingBit % 2048
  let negative := bits / Nat.pow 2 63 == 1
  if biased == 2047 then
    none
  else if biased == 0 then
    some ⟨negative, fraction, leastExponent⟩
  else
    some ⟨negative, leadingBit + fraction, leastExponent + (biased - 1)⟩

/-- Whether the next smaller number lies only half as far away as the next
larger one, as it does at a power of two. -/
def isBoundary (number : Dyadic) : Bool :=
  number.significand == leadingBit && number.exponent != leastExponent

end Dyadic
end Decimal
end SyncWatch
