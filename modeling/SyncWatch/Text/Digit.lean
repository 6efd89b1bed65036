/-!
# Digits

Numbers that are written in bases up to sixteen, with letters of either case.
-/

namespace SyncWatch
namespace Text

/-- The value of a hexadecimal digit. -/
def hexDigit? (char : Char) : Option Nat :=
  if '0' ≤ char ∧ char ≤ '9' then some (char.toNat - '0'.toNat)
  else if 'a' ≤ char ∧ char ≤ 'f' then some (char.toNat - 'a'.toNat + 10)
  else if 'A' ≤ char ∧ char ≤ 'F' then some (char.toNat - 'A'.toNat + 10)
  else none

/-- The number that digits stand for, after digits that stand for `number`. -/
def natOfDigitsFrom? (base : Nat) (number : Nat) : List Char → Option Nat
  | [] => some number
  | char :: rest =>
    match hexDigit? char with
    | some digit =>
      if digit < base then natOfDigitsFrom? base (number * base + digit) rest else none
    | none => none

/-- The number that digits of a base up to sixteen stand for; there has to be
at least one digit. -/
def natOfDigits? (base : Nat) (digits : List Char) : Option Nat :=
  if digits.isEmpty then none else natOfDigitsFrom? base 0 digits

@[simp] theorem natOfDigits?_nil (base : Nat) : natOfDigits? base [] = none := rfl

end Text
end SyncWatch
