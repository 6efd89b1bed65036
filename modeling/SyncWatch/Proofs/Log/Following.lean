import SyncWatch.Proofs.Log.Run
import Mathlib.Data.List.DropRight

/-!
# Following the end, or staying

A new line finds the view at the end of the log, within the tolerance, or above
it.  In the first case the view goes on to the new end.  In the second it stays
with the lines it shows, also when a full log drops its oldest line; only a view
that shows the oldest line has to move on with it.
-/

namespace SyncWatch
namespace Log
namespace LogSurface

variable {surface : LogSurface}

/-- Where no place is remembered, the view follows when it stands at the end. -/
theorem follows_of_held_eq_none
    (free : surface.scroll.held = none) :
    surface.scroll.follows = surface.scroll.nearBottom := by
  rw [ScrollState.follows, free]
  rfl

/-- What lies between the two ends of a list stays when elements go at its
front and one comes at its back. -/
theorem take_drop_concat
    {α : Type}
    {elements : List α}
    {gone start count : Nat}
    (within : max start gone + count ≤ elements.length)
    (element : α) :
    ((elements.drop gone ++ [element]).drop (start - gone)).take count =
      (elements.drop (max start gone)).take count := by
  have place : gone + (start - gone) = max start gone := by omega
  have early : start - gone ≤ (elements.drop gone).length := by
    rw [List.length_drop]
    omega
  rw [List.drop_append_of_le_length early, List.drop_drop, place]
  apply List.take_append_of_le_length
  rw [List.length_drop]
  omega

theorem overflow_le_one (surface : LogSurface) : surface.overflow ≤ 1 := by
  rw [overflow]
  split <;> decide

/-- A view that follows shows the newest lines after a new one came. -/
theorem window_push_of_follows
    (decided : surface.scroll.follows = true)
    (line : StampedLine) :
    (surface.push line).window =
      (surface.push line).lines.rtake
        (min surface.scroll.viewport (surface.push line).lines.length) := by
  have start (length : Nat) : length - min surface.scroll.viewport length =
      length - surface.scroll.viewport := by
    omega
  rw [window, scroll_push, decided, List.rtake, start]
  apply List.take_of_length_le
  rw [List.length_drop]
  dsimp only
  rw [if_pos rfl]
  omega

/-- Below a view that stands above the end there are lines that it does not show. -/
theorem InStep.lt_length_of_not_nearBottom
    {tolerance : Nat}
    (inStep : surface.InStep tolerance)
    (above : surface.scroll.nearBottom = false) :
    surface.scroll.offset + surface.scroll.viewport < surface.lines.length := by
  have distance := of_decide_eq_false above
  rw [ScrollState.maxOffset, inStep.contentLength_eq] at distance
  omega

/-- A view above the end shows the lines that it showed, or the next ones when
the first of them was dropped. -/
theorem window_push_of_not_nearBottom
    {tolerance : Nat}
    (inStep : surface.InStep tolerance)
    (free : surface.scroll.held = none)
    (above : surface.scroll.nearBottom = false)
    (line : StampedLine) :
    (surface.push line).window =
      (surface.lines.drop (max surface.scroll.offset surface.overflow)).take
        surface.scroll.viewport := by
  have small := surface.overflow_le_one
  have below := inStep.lt_length_of_not_nearBottom above
  have length : (surface.push line).lines.length =
      surface.lines.length - surface.overflow + 1 := by
    rw [push_eq, List.length_append, List.length_drop, List.length_singleton]
  have settled : min (surface.scroll.offset - surface.overflow)
      ((surface.push line).lines.length - surface.scroll.viewport) =
        surface.scroll.offset - surface.overflow := by
    omega
  have within : max surface.scroll.offset surface.overflow + surface.scroll.viewport ≤
      surface.lines.length := by
    omega
  rw [window, scroll_push, follows_of_held_eq_none free, above, free]
  simp only [Bool.false_eq_true, if_false, Option.getD_none]
  rw [settled, push_eq]
  exact take_drop_concat within line

/-- In every run, while no place is held for a log that is filled again, a new
line finds the view at the end or above it.  At the end the view follows and
shows the newest lines.  Above it the view does not follow and shows the lines
that it showed before, unless the log was full and the view stood at its top:
then it shows the lines from the second one on. -/
theorem push_follows_or_stays
    (capacity tolerance : Nat)
    (operations : List Operation)
    (free : ((new capacity tolerance).run operations).scroll.held = none)
    (line : StampedLine) :
    let before := (new capacity tolerance).run operations
    let after := before.push line
    let height := before.scroll.viewport
    (before.scroll.maxOffset - before.scroll.offset ≤ tolerance →
        after.scroll.pinned = true ∧
          after.window = after.lines.rtake (min height after.lines.length)) ∧
      (tolerance < before.scroll.maxOffset - before.scroll.offset →
        after.scroll.pinned = false ∧
          after.window.length = height ∧
          after.window =
            if max capacity 1 ≤ before.lines.length ∧ before.scroll.offset = 0 then
              (before.lines.drop 1).take height
            else
              before.window) := by
  intro before after height
  have inStep : before.InStep tolerance := (InStep.new capacity tolerance).run operations
  have room : before.capacity = max capacity 1 := (new capacity tolerance).capacity_run operations
  refine ⟨?_, ?_⟩
  · intro near
    have atEnd : before.scroll.nearBottom = true := by
      rw [ScrollState.nearBottom, inStep.tolerance_eq]
      exact decide_eq_true near
    have decided : before.scroll.follows = true := (follows_of_held_eq_none free).trans atEnd
    refine ⟨?_, window_push_of_follows decided line⟩
    rw [scroll_push]
    exact decided
  · intro far
    have above : before.scroll.nearBottom = false := by
      rw [ScrollState.nearBottom, inStep.tolerance_eq]
      exact decide_eq_false (Nat.not_le_of_lt far)
    have small := before.overflow_le_one
    have below := inStep.lt_length_of_not_nearBottom above
    have shown : after.window =
        (before.lines.drop (max before.scroll.offset before.overflow)).take height :=
      window_push_of_not_nearBottom inStep free above line
    refine ⟨?_, ?_, ?_⟩
    · rw [scroll_push]
      exact (follows_of_held_eq_none free).trans above
    · rw [shown, List.length_take, List.length_drop]
      omega
    · rw [shown]
      split
      next evicted =>
        rw [evicted.2, overflow, room, if_pos evicted.1]
        rfl
      next kept =>
        have stays : max before.scroll.offset before.overflow = before.scroll.offset := by
          by_cases full : max capacity 1 ≤ before.lines.length
          · have lower : before.scroll.offset ≠ 0 := fun top => kept ⟨full, top⟩
            omega
          · rw [overflow, room, if_neg full]
            exact Nat.max_eq_left (Nat.zero_le _)
        rw [stays]
        rfl

/-- A view at the top of a full log has to let its first line go. -/
theorem push_to_full_log_at_top :
    let line (text : String) : StampedLine := ⟨⟨text, .plain⟩, ⟨12, 0, 0⟩⟩
    let operations : List Operation :=
      [.view 2, .push (line "a"), .push (line "b"), .push (line "c"), .push (line "d"),
        .navigate .scrollToTop]
    let before := (new 4 1).run operations
    before.scroll.held = none ∧
      1 < before.scroll.maxOffset - before.scroll.offset ∧
      before.window = [line "a", line "b"] ∧
      (before.push (line "e")).scroll.pinned = false ∧
      (before.push (line "e")).window = [line "b", line "c"] := by
  intro line operations before
  have free : before.scroll.held = none := rfl
  have far : 1 < before.scroll.maxOffset - before.scroll.offset := by decide
  have top : before.window = [line "a", line "b"] := by decide +kernel
  obtain ⟨unpinned, _, shown⟩ :=
    (push_follows_or_stays 4 1 operations free (line "e")).2 far
  refine ⟨free, far, top, unpinned, ?_⟩
  rw [shown]
  decide +kernel

end LogSurface
end Log
end SyncWatch
