import SyncWatch.Proofs.Log.Contents
import SyncWatch.Proofs.Log.Hold
import SyncWatch.Proofs.Log.Retention

/-!
# Filling the log again

Before a feed sends its history again the log is emptied, and a view that does
not follow remembers its place.  While lines come again the view stands at that
place, less the lines that are dropped in the meantime, or at the end of what
has come so far.  So a history that fits comes back with the same view.  Of a
longer one the log had dropped the same lines before, and the view moves up by
their number once more.
-/

namespace SyncWatch
namespace Log
namespace LogSurface

/-- A log is filled again, and its view returns to a place, less the lines that
were dropped since the log was emptied. -/
structure Refills (surface : LogSurface) (place : Nat) : Prop where
  held_eq : surface.scroll.held = some (place - surface.dropped)
  pinned_eq : surface.scroll.pinned = false
  offset_eq : surface.scroll.offset =
    min (place - surface.dropped) surface.scroll.maxOffset

variable {surface : LogSurface}

theorem refills_iff_holds {place : Nat} :
    surface.Refills place ↔ surface.Holds (place - surface.dropped) :=
  ⟨fun refills => ⟨refills.held_eq, refills.pinned_eq, refills.offset_eq⟩,
    fun holds => ⟨holds.held_eq, holds.pinned_eq, holds.offset_eq⟩⟩

/-- A view that does not follow remembers where it stands. -/
theorem refills_beginReplay
    (unpinned : surface.scroll.pinned = false)
    (free : surface.scroll.held = none) :
    surface.beginReplay.Refills surface.scroll.offset := by
  have holds := holds_beginReplay unpinned
  rw [free] at holds
  exact refills_iff_holds.mpr holds

/-- A line that comes again leaves the view at its place, which moves up when a
line is dropped. -/
theorem Refills.push
    {place : Nat}
    (refills : surface.Refills place)
    (line : StampedLine) :
    (surface.push line).Refills place := by
  have moved : place - surface.dropped - surface.overflow = place - (surface.push line).dropped := by
    rw [push_eq]
    exact Nat.sub_sub _ _ _
  rw [refills_iff_holds, ← moved]
  exact (refills_iff_holds.mp refills).push line

theorem Refills.run_push
    {place : Nat}
    (refills : surface.Refills place)
    (lines : List StampedLine) :
    (surface.run (lines.map .push)).Refills place := by
  induction lines generalizing surface with
  | nil => exact refills
  | cons line rest inductionHypothesis => exact inductionHypothesis (refills.push line)

/-- The texts and styles in view are a stretch of those in the log. -/
theorem map_content_window (surface : LogSurface) :
    surface.window.map StampedLine.content =
      (surface.contents.drop surface.scroll.offset).take surface.scroll.viewport := by
  rw [window, List.map_take, List.map_drop, contents]

theorem Retains.contents_eq
    {past : List StampedLine}
    (retains : surface.Retains past) :
    surface.contents = (past.map StampedLine.content).rtake surface.capacity := by
  rw [contents, retains.lines_eq, List.rtake, List.map_drop, List.rtake, List.length_map]

/-- When the lines of a log come again, it holds the same texts, and a view that
does not follow has moved up by the lines that were dropped. -/
theorem refill
    {tolerance : Nat}
    {history again : List StampedLine}
    (inStep : surface.InStep tolerance)
    (retains : surface.Retains history)
    (room : 0 < surface.capacity)
    (unpinned : surface.scroll.pinned = false)
    (free : surface.scroll.held = none)
    (same : again.map StampedLine.content = history.map StampedLine.content) :
    let after := surface.run (.beginReplay :: again.map .push)
    after.scroll.pinned = false ∧
      after.contents = surface.contents ∧
      after.scroll.viewport = surface.scroll.viewport ∧
      after.scroll.offset = surface.scroll.offset - (history.length - surface.capacity) := by
  intro after
  have refills : after.Refills surface.scroll.offset :=
    (refills_beginReplay unpinned free).run_push again
  have retainsAgain : after.Retains again := by
    have kept := retains.run room (.beginReplay :: again.map .push)
    rw [List.foldl_cons, foldl_written_push] at kept
    exact kept
  have inStepAgain : after.InStep tolerance := inStep.run _
  have capacity_eq : after.capacity = surface.capacity := surface.capacity_run _
  have viewport_eq : after.scroll.viewport = surface.scroll.viewport :=
    viewport_run (by simp) surface
  have length_eq : again.length = history.length := by
    rw [← List.length_map StampedLine.content, same, List.length_map]
  have contents_eq : after.contents = surface.contents := by
    rw [retainsAgain.contents_eq, retains.contents_eq, same, capacity_eq]
  have lowest_eq : after.scroll.maxOffset = surface.scroll.maxOffset := by
    rw [ScrollState.maxOffset, ScrollState.maxOffset, inStepAgain.contentLength_eq,
      inStep.contentLength_eq, retainsAgain.length_lines, retains.length_lines, length_eq,
      capacity_eq, viewport_eq]
  have within : surface.scroll.offset - after.dropped ≤ surface.scroll.maxOffset :=
    (Nat.sub_le _ _).trans inStep.settled.offset_le
  refine ⟨refills.pinned_eq, contents_eq, viewport_eq, ?_⟩
  rw [refills.offset_eq, lowest_eq, Nat.min_eq_left within, retainsAgain.dropped_eq, length_eq,
    capacity_eq]

/-- A history is written to a log and the reader moves the view, which does not
follow then.  When the same texts are sent again, the view does not follow
either, and it stands above its place by as many lines as the history is longer
than the log.  So it shows the same texts if the history fits or the view stands
at the top. -/
theorem view_after_refill
    (capacity tolerance height : Nat)
    (history again : List StampedLine)
    (same : again.map StampedLine.content = history.map StampedLine.content)
    (moves : List Navigation)
    (unpinned : ((new capacity tolerance).run
      (.view height :: (history.map .push ++ moves.map .navigate))).scroll.pinned = false) :
    let before := (new capacity tolerance).run
      (.view height :: (history.map .push ++ moves.map .navigate))
    let after := before.run (.beginReplay :: again.map .push)
    after.scroll.pinned = false ∧
      after.window.map StampedLine.content =
        (before.contents.drop
          (before.scroll.offset - (history.length - max capacity 1))).take height ∧
      (history.length ≤ max capacity 1 ∨ before.scroll.offset = 0 →
        after.window.map StampedLine.content = before.window.map StampedLine.content) := by
  intro before after
  have room : 0 < before.capacity := by
    rw [capacity_run]
    exact Nat.lt_of_lt_of_le Nat.zero_lt_one (Nat.le_max_right capacity 1)
  have capacity_eq : before.capacity = max capacity 1 := (new capacity tolerance).capacity_run _
  have retains : before.Retains history := by
    have kept := (Retains.new capacity tolerance).run
      (Nat.lt_of_lt_of_le Nat.zero_lt_one (Nat.le_max_right capacity 1))
      (.view height :: (history.map .push ++ moves.map .navigate))
    rw [List.foldl_cons, List.foldl_append, foldl_written_push, foldl_written_navigate] at kept
    exact kept
  have free : before.scroll.held = none := held_run (by simp) rfl
  have viewport_eq : before.scroll.viewport = height :=
    (viewport_run (by simp) ((new capacity tolerance).withViewport height)).trans
      (viewport_withViewport _ height)
  obtain ⟨stillUnpinned, contents_eq, sameHeight, offset_eq⟩ :=
    refill ((InStep.new capacity tolerance).run _) retains room unpinned free same
  have shown : after.window.map StampedLine.content =
      (before.contents.drop
        (before.scroll.offset - (history.length - max capacity 1))).take height := by
    rw [map_content_window, contents_eq, sameHeight, offset_eq, viewport_eq, capacity_eq]
  refine ⟨stillUnpinned, shown, ?_⟩
  intro fits
  have place : before.scroll.offset - (history.length - max capacity 1) =
      before.scroll.offset := by
    omega
  rw [shown, place, map_content_window, viewport_eq]

/-- A history that fills the log exactly comes back at another time with the
same view. -/
theorem view_after_refill_of_full_log :
    let sent (clock : ClockTime) : List StampedLine :=
      ["a", "b", "c", "d"].map fun text => ⟨⟨text, .plain⟩, clock⟩
    let history := sent ⟨12, 0, 0⟩
    let again := sent ⟨12, 5, 0⟩
    let before := (new 4 0).run
      (.view 2 :: (history.map .push ++ [Navigation.scrollBy (-1)].map .navigate))
    let after := before.run (.beginReplay :: again.map .push)
    again.map StampedLine.content = history.map StampedLine.content ∧
      before.scroll.pinned = false ∧
      after.scroll.pinned = false ∧
      before.window.map (·.content.text) = ["b", "c"] ∧
      after.window.map StampedLine.content = before.window.map StampedLine.content := by
  intro sent history again before after
  have same : again.map StampedLine.content = history.map StampedLine.content := rfl
  have unpinned : before.scroll.pinned = false := rfl
  have shown : before.window.map (·.content.text) = ["b", "c"] := by decide +kernel
  obtain ⟨stillUnpinned, _, sameView⟩ :=
    view_after_refill 4 0 2 history again same [.scrollBy (-1)] unpinned
  exact ⟨same, unpinned, stillUnpinned, shown, sameView (Or.inl (Nat.le_refl _))⟩

/-- A history that is longer than the log comes back with another view, although
the log holds the same lines as before. -/
theorem view_moves_up_in_longer_refill :
    let history : List StampedLine :=
      ["a", "b", "c", "d"].map fun text => ⟨⟨text, .plain⟩, ⟨12, 0, 0⟩⟩
    let before := (new 3 0).run
      (.view 1 :: (history.map .push ++ [Navigation.scrollBy (-1)].map .navigate))
    let after := before.run (.beginReplay :: history.map .push)
    before.scroll.pinned = false ∧ after.lines = before.lines ∧
      before.window.map (·.content.text) = ["c"] ∧
      after.window.map (·.content.text) = ["b"] := by
  decide +kernel

end LogSurface
end Log
end SyncWatch
