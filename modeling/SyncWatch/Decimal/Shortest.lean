import SyncWatch.Decimal.Dyadic
import SyncWatch.Decimal.Rounding

/-!
# The fewest digits that read back

A decimal reads back as a number when it lies in the interval of reals that
round to the number; the two ends belong to the interval exactly when the
significand is even.  The grids of decimals `digits * 10 ^ exponent` are tried
from the coarsest on, and the first grid with a hit wins.  On one grid only the
two neighbours of the number can be the nearest hit.
-/

namespace SyncWatch
namespace Decimal

/-- The decimal `digits * 10 ^ exponent`. -/
structure Scientific where
  /-- The digits, as one natural number. -/
  digits : Nat
  /-- The power of ten that scales the digits. -/
  exponent : Int
  deriving DecidableEq, Repr

namespace Shortest

/-- An interval around a number, all three over one common denominator. -/
structure Interval where
  /-- The numerator of the lower end. -/
  low : Nat
  /-- The numerator of the number itself. -/
  value : Nat
  /-- The numerator of the upper end. -/
  high : Nat
  /-- The common denominator. -/
  denominator : Nat
  /-- Whether the two ends belong to the interval. -/
  closed : Bool

/-- The interval of the reals that round to a positive number. -/
def Interval.ofDyadic (number : Dyadic) : Interval :=
  let quarters := 4 * number.significand
  let below := if number.isBoundary then 1 else 2
  let up := Nat.pow 2 number.exponent.toNat
  let down := Nat.pow 2 (-number.exponent).toNat
  { low := (quarters - below) * up
    value := quarters * up
    high := (quarters + 2) * up
    denominator := 4 * down
    closed := number.significand % 2 == 0 }

/-- The interval with every number in it divided by `10 ^ exponent`. -/
def Interval.scaleDown (interval : Interval) (exponent : Int) : Interval :=
  let up := Nat.pow 10 (-exponent).toNat
  { interval with
    low := interval.low * up
    value := interval.value * up
    high := interval.high * up
    denominator := interval.denominator * Nat.pow 10 exponent.toNat }

/-- Whether a positive integer lies in the interval. -/
def Interval.covers (interval : Interval) (candidate : Nat) : Bool :=
  let point := candidate * interval.denominator
  candidate != 0 &&
    ((interval.low < point && point < interval.high) ||
      (interval.closed && (point == interval.low || point == interval.high)))

/-- The integer of the interval that is nearest to the number in it; of two that
are equally near a rule picks one. -/
def Interval.nearest? (interval : Interval) (tie : TieRule) : Option Nat :=
  let below := interval.value / interval.denominator
  let above := below + 1
  match interval.covers below, interval.covers above with
  | true, true => some (tie.round interval.value interval.denominator)
  | true, false => some below
  | false, true => some above
  | false, false => none

/-- Try the grids `10 ^ exponent`, `10 ^ (exponent - 1)`, … in turn. -/
def search (tie : TieRule) (interval : Interval) : Nat → Int → Scientific
  | 0, exponent => ⟨0, exponent⟩
  | attempts + 1, exponent =>
    match (interval.scaleDown exponent).nearest? tie with
    | some digits => ⟨digits, exponent⟩
    | none => search tie interval attempts (exponent - 1)

/-- A power of ten above the number, or nearly so. -/
def coarsest (number : Dyadic) : Int :=
  (number.significand.log2 + 1 + number.exponent) * 30103 / 100000 + 1

/-- Seventeen digits always suffice, and the search starts at most three
places too high. -/
def gridCount : Nat := 24

end Shortest

/-- The shortest decimal that reads back as the absolute value of a number, and
the nearest of them; of two that are equally near a rule picks one. -/
def shortest (tie : TieRule) (number : Dyadic) : Scientific :=
  if number.significand == 0 then
    ⟨0, 0⟩
  else
    Shortest.search tie (Shortest.Interval.ofDyadic number) Shortest.gridCount
      (Shortest.coarsest number)

end Decimal
end SyncWatch
