import SyncWatch.Decimal.Shortest

/-!
# Decimal texts of numbers

Three ways to write a floating point number: with a fixed number of places,
with all digits in front of and behind the point, and in the notation that
changes to a power of ten for very large and very small numbers.
-/

namespace SyncWatch
namespace Decimal

/-- The sign that stands before a number. -/
def signText (negative : Bool) : String :=
  if negative then "-" else ""

/-- A text of `count` zeros. -/
def zeros (count : Nat) : String :=
  String.ofList (List.replicate count '0')

/-- A natural number with at least `width` digits. -/
def padded (width number : Nat) : String :=
  let text := toString number
  zeros (width - text.length) ++ text

/-- The number with exactly `places` digits behind the point. -/
def Dyadic.fixed (number : Dyadic) (places : Nat) : String :=
  let scaled := TieRule.toEven.round
    (number.significand * Nat.pow 2 number.exponent.toNat * Nat.pow 10 places)
    (Nat.pow 2 (-number.exponent).toNat)
  let whole := scaled / Nat.pow 10 places
  let rest := scaled % Nat.pow 10 places
  let point := if places == 0 then "" else "." ++ padded places rest
  signText number.negative ++ toString whole ++ point

/-- The decimal with every digit written out and at least one digit behind the point. -/
def Scientific.positional (decimal : Scientific) : String :=
  let digits := toString decimal.digits
  let shift := decimal.exponent
  if 0 ≤ shift then
    digits ++ (if decimal.digits == 0 then "" else zeros shift.toNat) ++ ".0"
  else
    let places := (-shift).toNat
    let text := padded (places + 1) decimal.digits
    let whole := text.length - places
    String.ofList (text.toList.take whole) ++ "." ++ String.ofList (text.toList.drop whole)

/-- The decimal as one digit, a point and the other digits, times a power of ten. -/
def Scientific.powered (decimal : Scientific) : String :=
  let digits := (toString decimal.digits).toList
  let power := decimal.exponent + (digits.length - 1 : Nat)
  let fraction := digits.drop 1
  let point := if fraction.isEmpty then "" else "." ++ String.ofList fraction
  let sign := if power < 0 then "-" else "+"
  String.ofList (digits.take 1) ++ point ++ "e" ++ sign ++ toString power.natAbs

/-- The power of ten of the first digit. -/
def Scientific.leadingPower (decimal : Scientific) : Int :=
  decimal.exponent + ((toString decimal.digits).length - 1 : Nat)

/-- The decimal with all its digits when the first of them stands at most five
places behind the point and at most sixteen before it, else as a power of ten. -/
def Scientific.compact (decimal : Scientific) : String :=
  if -5 ≤ decimal.leadingPower ∧ decimal.leadingPower ≤ 15 then
    decimal.positional
  else
    decimal.powered

/-- How a number without a dyadic form is called. -/
def exceptionalText (number : Float) : String :=
  if number.isNaN then "NaN" else if number < 0 then "-inf" else "inf"

/-- A number with `places` digits behind the point, rounded from its exact value. -/
def fixedText (number : Float) (places : Nat) : String :=
  match Dyadic.ofFloat? number with
  | some dyadic => dyadic.fixed places
  | none => exceptionalText number

/-- A number by its shortest digits, all written out.  Of two equally near
decimals it is the larger one. -/
def positionalText (number : Float) : String :=
  match Dyadic.ofFloat? number with
  | some dyadic => signText dyadic.negative ++ (shortest .upward dyadic).positional
  | none => exceptionalText number

/-- A finite number by its shortest digits, in the compact notation.  Of two
equally near decimals it is the even one. -/
def compactText? (number : Float) : Option String :=
  (Dyadic.ofFloat? number).map fun dyadic =>
    signText dyadic.negative ++ (shortest .toEven dyadic).compact

end Decimal
end SyncWatch
