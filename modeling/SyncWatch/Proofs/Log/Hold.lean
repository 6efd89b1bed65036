import SyncWatch.Proofs.Log.Run

/-!
# A place that is held

A view that does not follow remembers its place when the log is emptied to be
filled again.  It goes back there as the lines come again, whatever else is
drawn, dropped or sent once more in the meantime.  The place moves up with every
line that is dropped, and only the reader and a log that is emptied for good
make the view forget it.
-/

namespace SyncWatch
namespace Log

/-- Whether the reader moves the view, or the log is emptied for good. -/
def Operation.isMoveOrClear : Operation → Bool
  | .navigate _ | .clear => true
  | .push _ | .beginReplay | .view _ => false

namespace LogSurface

/-- How many lines are lost when a line is written.  Emptying the log loses none
in this sense. -/
def lost (surface : LogSurface) : Operation → Nat
  | .push line => surface.lines.length + 1 - (surface.push line).lines.length
  | _ => 0

/-- How many lines are lost in the course of some operations. -/
def evictions : LogSurface → List Operation → Nat
  | _, [] => 0
  | surface, operation :: rest =>
    surface.lost operation + (surface.perform operation).evictions rest

/-- The lost line is the one that a full log pushes out. -/
theorem lost_push
    {surface : LogSurface}
    (room : 0 < surface.capacity)
    (line : StampedLine) :
    surface.lost (.push line) = surface.overflow := by
  rw [lost, push_eq, List.length_append, List.length_drop, List.length_singleton, overflow]
  split <;> omega

/-- A place is held: the view does not follow, and it stands at the place or as
near to it as the log reaches. -/
structure Holds (surface : LogSurface) (place : Nat) : Prop where
  held_eq : surface.scroll.held = some place
  pinned_eq : surface.scroll.pinned = false
  offset_eq : surface.scroll.offset = min place surface.scroll.maxOffset

variable {surface : LogSurface}

/-- A view that does not follow holds its place when the log is emptied to be
filled again. -/
theorem holds_beginReplay
    (unpinned : surface.scroll.pinned = false) :
    surface.beginReplay.Holds (surface.scroll.held.getD surface.scroll.offset) := by
  rw [beginReplay, ScrollState.beginReplay_eq]
  refine ⟨?_, unpinned, ?_⟩
  · simp [unpinned]
  · simp [ScrollState.maxOffset]

namespace Holds

variable {place : Nat}

/-- A new line leaves the view at the place, which moves up with a lost line. -/
theorem push
    (holds : surface.Holds place)
    (line : StampedLine) :
    (surface.push line).Holds (place - surface.overflow) := by
  have decided : surface.scroll.follows = false := by
    rw [ScrollState.follows, holds.held_eq]
    exact holds.pinned_eq
  refine ⟨?_, ?_, ?_⟩
  · rw [scroll_push, holds.held_eq]
    rfl
  · rw [scroll_push, decided]
  · rw [scroll_push, decided, holds.held_eq]
    rfl

/-- A view of another height settles at the place again. -/
theorem withViewport
    (holds : surface.Holds place)
    (height : Nat) :
    (surface.withViewport height).Holds place := by
  rw [LogSurface.withViewport, ScrollState.setViewport]
  split
  · exact holds
  · rw [ScrollState.settle_eq]
    refine ⟨holds.held_eq, holds.pinned_eq, ?_⟩
    simp only [holds.pinned_eq, holds.held_eq, Bool.false_eq_true, if_false, Option.getD_some]
    rfl

theorem beginReplay
    (holds : surface.Holds place) :
    surface.beginReplay.Holds place := by
  have again := holds_beginReplay holds.pinned_eq
  rwa [holds.held_eq] at again

/-- The place is held through every operation but a move and a clear. -/
theorem perform
    (holds : surface.Holds place)
    (room : 0 < surface.capacity)
    {operation : Operation}
    (keeps : operation.isMoveOrClear = false) :
    (surface.perform operation).Holds (place - surface.lost operation) := by
  cases operation with
  | push line =>
      rw [lost_push room]
      exact holds.push line
  | clear => cases keeps
  | beginReplay => exact holds.beginReplay
  | view height => exact holds.withViewport height
  | navigate move => cases keeps

/-- The place is held through any number of such operations, and moves up with
every line that is lost. -/
theorem run
    (holds : surface.Holds place)
    (room : 0 < surface.capacity)
    {operations : List Operation}
    (keep : ∀ operation ∈ operations, operation.isMoveOrClear = false) :
    (surface.run operations).Holds (place - surface.evictions operations) := by
  induction operations generalizing surface place with
  | nil => exact holds
  | cons operation rest inductionHypothesis =>
      rw [List.forall_mem_cons] at keep
      have roomAfter : 0 < (surface.perform operation).capacity := by
        rw [capacity_perform]
        exact room
      rw [evictions, ← Nat.sub_sub]
      exact inductionHypothesis (holds.perform room keep.1) roomAfter keep.2

/-- A move and a clear make the view forget the place, and nothing else does. -/
theorem held_perform_eq_none_iff
    (holds : surface.Holds place)
    (room : 0 < surface.capacity)
    (operation : Operation) :
    (surface.perform operation).scroll.held = none ↔ operation.isMoveOrClear = true := by
  cases decided : operation.isMoveOrClear with
  | false => simp [(holds.perform room decided).held_eq]
  | true =>
      cases operation with
      | clear => exact iff_of_true rfl rfl
      | navigate move =>
          obtain ⟨offset, pinned, moved⟩ := surface.scroll.exists_navigate_eq move
          rw [LogSurface.perform, LogSurface.navigate, moved]
          exact iff_of_true rfl rfl
      | _ => cases decided

end Holds

/-- In every run, a view that does not follow and holds no place begins to hold
the one where it stands when the log is emptied to be filled again.  However
lines are written, the log is drawn and emptied in this way again after that,
the view does not follow, and it stands at that place less the lines that were
lost since, or as near to it as the log reaches.  The reader's next move or the
next clear ends this, and nothing else does. -/
theorem view_while_place_is_held
    (capacity tolerance : Nat)
    (operations : List Operation)
    (unpinned : ((new capacity tolerance).run operations).scroll.pinned = false)
    (free : ((new capacity tolerance).run operations).scroll.held = none)
    (later : List Operation)
    (keep : ∀ operation ∈ later, operation.isMoveOrClear = false) :
    let before := (new capacity tolerance).run operations
    let after := before.run (.beginReplay :: later)
    let place := before.scroll.offset - before.evictions (.beginReplay :: later)
    after.scroll.pinned = false ∧
      after.scroll.offset = min place after.scroll.maxOffset ∧
      after.scroll.held = some place ∧
      ∀ operation,
        (after.perform operation).scroll.held = none ↔ operation.isMoveOrClear = true := by
  intro before after place
  have room : 0 < before.capacity := by
    rw [capacity_run]
    exact Nat.lt_of_lt_of_le Nat.zero_lt_one (Nat.le_max_right capacity 1)
  have begun : before.beginReplay.Holds before.scroll.offset := by
    have held := holds_beginReplay unpinned
    rwa [free] at held
  have since : before.evictions (.beginReplay :: later) = before.beginReplay.evictions later :=
    Nat.zero_add _
  have holds : after.Holds place := by
    change after.Holds (before.scroll.offset - before.evictions (.beginReplay :: later))
    rw [since]
    exact begun.run room keep
  have roomAfter : 0 < after.capacity := by
    rw [capacity_run]
    exact room
  exact ⟨holds.pinned_eq, holds.offset_eq, holds.held_eq,
    holds.held_perform_eq_none_iff roomAfter⟩

/-- A view at the fourth of five lines, in a log that keeps four, holds its place
while the log is filled twice: the first time a line is lost again, and the second
time two lines have come so far. -/
theorem view_while_held_over_two_replays :
    let line (text : String) : Operation := .push ⟨⟨text, .plain⟩, ⟨12, 0, 0⟩⟩
    let history := ["a", "b", "c", "d", "e"].map line
    let operations := .view 1 :: history ++ [.navigate (.scrollBy (-1))]
    let later := history ++ [.view 2, .beginReplay, line "a", .view 1, line "b"]
    let before := (new 4 0).run operations
    let after := before.run (.beginReplay :: later)
    before.scroll.offset = 2 ∧
      before.evictions (.beginReplay :: later) = 1 ∧
      after.scroll.pinned = false ∧ after.scroll.offset = 1 ∧
      (after.perform (.navigate .scrollToTop)).scroll.held = none := by
  intro line history operations later
  have unpinned : ((new 4 0).run operations).scroll.pinned = false := by decide +kernel
  have free : ((new 4 0).run operations).scroll.held = none := by decide +kernel
  have keep : ∀ operation ∈ later, operation.isMoveOrClear = false := by decide
  have third : ((new 4 0).run operations).scroll.offset = 2 := by decide +kernel
  have lost : ((new 4 0).run operations).evictions (.beginReplay :: later) = 1 := by
    decide +kernel
  have lowest : (((new 4 0).run operations).run (.beginReplay :: later)).scroll.maxOffset = 1 := by
    decide +kernel
  obtain ⟨stays, place, _, ends⟩ :=
    view_while_place_is_held 4 0 operations unpinned free later keep
  have released := (ends (.navigate .scrollToTop)).mpr rfl
  refine ⟨third, lost, stays, ?_, released⟩
  rw [place, lost, third, lowest]
  rfl

end LogSurface
end Log
end SyncWatch
