/-!
# Integers of a number of bits

Some counters and fields hold integers of a fixed number of bits.  Here they
are unbounded numbers that are compared with the bounds of such integers.
-/

namespace SyncWatch
namespace Word

/-- How many values some bits have. -/
def size (bits : Nat) : Nat := Nat.pow 2 bits

/-- The largest value without a sign. -/
def largest (bits : Nat) : Nat := size bits - 1

/-- Whether a number is a value without a sign. -/
def holds (bits value : Nat) : Bool :=
  value < size bits

/-- Whether an integer is a value with a sign. -/
def holdsSigned (bits : Nat) (value : Int) : Bool :=
  -(size (bits - 1) : Int) ≤ value && value < (size (bits - 1) : Int)

/-- Whether an integer is a value with or without a sign. -/
def holdsEither (bits : Nat) (value : Int) : Bool :=
  -(size (bits - 1) : Int) ≤ value && value < (size bits : Int)

theorem size_le_size {fewer bits : Nat} (le : fewer ≤ bits) : size fewer ≤ size bits :=
  Nat.pow_le_pow_right (by decide) le

/-- More bits hold every value that fewer bits hold with a sign. -/
theorem holdsEither_of_holdsSigned
    {fewer bits : Nat}
    (le : fewer ≤ bits)
    {value : Int}
    (held : holdsSigned fewer value = true) :
    holdsEither bits value = true := by
  have least : size (fewer - 1) ≤ size (bits - 1) := size_le_size (by omega)
  have greatest : size (fewer - 1) ≤ size bits := size_le_size (by omega)
  simp only [holdsSigned, holdsEither, Bool.and_eq_true, decide_eq_true_eq] at held ⊢
  omega

end Word
end SyncWatch
