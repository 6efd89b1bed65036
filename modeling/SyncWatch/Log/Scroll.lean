/-!
# Following the end of the log

The view stays at the newest line unless the reader scrolls away from it, and
then stays where the reader left it.  Offsets count rows: the offset is the
index of the first visible line.
-/

namespace SyncWatch
namespace Log

/-- Where the view stands, and whether it follows the end. -/
structure ScrollState where
  /-- The index of the first visible line. -/
  offset : Nat := 0
  /-- Whether the view follows the end of the log. -/
  pinned : Bool := true
  /-- How many rows above the end still count as the end. -/
  tolerance : Nat := 1
  /-- How many lines the log has. -/
  contentLength : Nat := 0
  /-- How many rows the view has. -/
  viewport : Nat := 0
  /-- Where a view that does not follow returns to while the log is filled again. -/
  held : Option Nat := none
  deriving DecidableEq, Repr

namespace ScrollState

/-- From this percentage on the view follows the end. -/
def pinPercent : Nat := 99

/-- The largest offset that leaves no row empty. -/
def maxOffset (scroll : ScrollState) : Nat :=
  scroll.contentLength - scroll.viewport

/-- Whether the view stands at the end, within the tolerance. -/
def nearBottom (scroll : ScrollState) : Bool :=
  scroll.maxOffset - scroll.offset ≤ scroll.tolerance

/-- Decide whether the view follows, before the log changes. -/
def beforeMutation (scroll : ScrollState) : ScrollState :=
  if scroll.held.isSome then scroll
  else { scroll with pinned := scroll.nearBottom }

/-- Whether the view follows what is written next.  While the log is filled
again that stays as it was decided before. -/
def follows (scroll : ScrollState) : Bool :=
  if scroll.held.isSome then scroll.pinned else scroll.nearBottom

theorem beforeMutation_eq (scroll : ScrollState) :
    scroll.beforeMutation = { scroll with pinned := scroll.follows } := by
  rw [beforeMutation, follows]
  split <;> rfl

/-- Move the view to the end or back to its place. -/
def settle (scroll : ScrollState) : ScrollState :=
  if scroll.pinned then
    { scroll with offset := scroll.maxOffset }
  else
    { scroll with offset := min (scroll.held.getD scroll.offset) scroll.maxOffset }

/-- Settling moves the view and changes nothing else. -/
theorem settle_eq (scroll : ScrollState) :
    scroll.settle =
      { scroll with
        offset :=
          if scroll.pinned then scroll.maxOffset
          else min (scroll.held.getD scroll.offset) scroll.maxOffset } := by
  rw [settle]
  split <;> rfl

/-- The log has grown to a number of lines. -/
def afterAppend (scroll : ScrollState) (contentLength : Nat) : ScrollState :=
  settle { scroll with contentLength }

/-- Lines were dropped from the top; a view that does not follow keeps its lines. -/
def afterEvict (scroll : ScrollState) (count : Nat) : ScrollState :=
  { scroll with
    contentLength := scroll.contentLength - count
    held := scroll.held.map (· - count)
    offset := if scroll.pinned then scroll.offset else scroll.offset - count }

@[simp] theorem afterEvict_zero (scroll : ScrollState) : scroll.afterEvict 0 = scroll := by
  simp [afterEvict]

/-- The view has another height. -/
def setViewport (scroll : ScrollState) (viewport : Nat) : ScrollState :=
  if viewport = scroll.viewport then scroll
  else settle { scroll with viewport }

/-- Take over a place that the reader chose, and follow if it is the end. -/
def moveTo (scroll : ScrollState) (offset : Nat) : ScrollState :=
  let moved := { scroll with held := none, offset }
  { moved with pinned := moved.nearBottom }

/-- Scroll by a number of rows, up when it is negative. -/
def scrollBy (scroll : ScrollState) (rows : Int) : ScrollState :=
  scroll.moveTo (min (scroll.offset + rows).toNat scroll.maxOffset)

/-- Scroll by a number of views, of which each has at least one row. -/
def page (scroll : ScrollState) (pages : Int) : ScrollState :=
  scroll.scrollBy (pages * (max scroll.viewport 1 : Nat))

/-- Scroll to the first line. -/
def scrollToTop (scroll : ScrollState) : ScrollState :=
  scroll.moveTo 0

/-- Move to a percentage of the log; only the last percents make the view follow. -/
def scrubTo (scroll : ScrollState) (percent : Nat) : ScrollState :=
  if pinPercent ≤ percent then
    { scroll with held := none, offset := scroll.maxOffset, pinned := true }
  else
    { scroll with
      held := none
      offset := (scroll.maxOffset * percent + 50) / 100
      pinned := false }

/-- The place of the view as a percentage. -/
def positionPercent (scroll : ScrollState) : Nat :=
  if scroll.maxOffset = 0 then 100
  else min scroll.offset scroll.maxOffset * 100 / scroll.maxOffset

/-- The log was emptied. -/
def clear (scroll : ScrollState) : ScrollState :=
  { scroll with offset := 0, pinned := true, contentLength := 0, held := none }

/-- The log was emptied to be filled again by a feed that starts over.  A view
that does not follow remembers its place. -/
def beginReplay (scroll : ScrollState) : ScrollState :=
  if scroll.pinned then
    scroll.clear
  else
    { scroll with
      held := some (scroll.held.getD scroll.offset)
      contentLength := 0
      offset := 0 }

/-- A view that follows goes on following, and another one remembers its place. -/
theorem beginReplay_eq (scroll : ScrollState) :
    scroll.beginReplay =
      { scroll with
        contentLength := 0
        offset := 0
        held := if scroll.pinned then none else some (scroll.held.getD scroll.offset) } := by
  rw [beginReplay]
  split
  next follows => rw [clear, ← follows]
  next => rfl

end ScrollState
end Log
end SyncWatch
