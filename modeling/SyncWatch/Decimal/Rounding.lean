/-!
# Quotients rounded to integers

A quotient goes to the nearer one of its two neighbours among the natural
numbers.  Half way between them a rule decides.
-/

namespace SyncWatch
namespace Decimal

/-- Where a number half way between two neighbours goes. -/
inductive TieRule where
  /-- To the even one of the two. -/
  | toEven
  /-- To the larger one of the two. -/
  | upward
  deriving DecidableEq, Repr

/-- Whether the number half way above an integer goes up. -/
def TieRule.goesUp : TieRule → Nat → Bool
  | toEven, below => below % 2 == 1
  | upward, _ => true

/-- Whether the larger neighbour of `numerator / denominator` is the one it goes to. -/
def TieRule.roundsUp (tie : TieRule) (numerator denominator : Nat) : Bool :=
  let twice := 2 * (numerator % denominator)
  denominator < twice || (twice == denominator && tie.goesUp (numerator / denominator))

/-- The integer to which `numerator / denominator` goes. -/
def TieRule.round (tie : TieRule) (numerator denominator : Nat) : Nat :=
  numerator / denominator + (tie.roundsUp numerator denominator).toNat

end Decimal
end SyncWatch
