/-!
# Sets of characters

A set of characters is given by the first and last code points of its runs.  A
mapping of characters is given by runs that are shifted as a whole.
-/

namespace SyncWatch
namespace Text

/-- Whether a code point lies in one of some runs. -/
def inRuns (runs : List (Nat × Nat)) (code : Nat) : Bool :=
  runs.any fun run => run.1 ≤ code && code ≤ run.2

/-- No code point lies in no runs. -/
@[simp] theorem inRuns_nil (code : Nat) : inRuns [] code = false :=
  rfl

/-- A code point lies in the first run or in one of the others. -/
@[simp] theorem inRuns_cons (first last code : Nat) (runs : List (Nat × Nat)) :
    inRuns ((first, last) :: runs) code =
      ((first ≤ code && code ≤ last) || inRuns runs code) :=
  rfl

/-- Equally spaced code points whose counterparts lie at one distance. -/
structure ShiftedRun where
  /-- The smallest code point of the run. -/
  first : Nat
  /-- The largest code point of the run. -/
  last : Nat
  /-- The distance between neighbours. -/
  step : Nat
  /-- What is added to a code point to reach its counterpart. -/
  shift : Int
  deriving DecidableEq, Repr

namespace ShiftedRun

/-- Whether a code point belongs to a run. -/
def covers (run : ShiftedRun) (code : Nat) : Bool :=
  run.first ≤ code && code ≤ run.last && (code - run.first) % run.step == 0

/-- The counterpart of a code point in the first run that it belongs to. -/
def counterpart? (runs : List ShiftedRun) (code : Nat) : Option Char :=
  (runs.find? fun run => run.covers code).map fun run => Char.ofNat (Int.toNat (code + run.shift))

/-- Without runs nothing has a counterpart. -/
@[simp] theorem counterpart?_nil (code : Nat) : counterpart? [] code = none :=
  rfl

end ShiftedRun
end Text
end SyncWatch
