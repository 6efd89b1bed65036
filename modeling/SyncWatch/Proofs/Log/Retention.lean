import SyncWatch.Proofs.Log.Run
import Mathlib.Data.List.DropRight

/-!
# What the log keeps

Of the lines that were written since the log was last emptied it keeps the
newest ones, as many as it has room for, and counts the others as dropped.
It also counts how often it was emptied for good.  Neither drawing the log nor
scrolling it changes any of that.
-/

namespace SyncWatch
namespace Log

/-- The lines written since the log was last emptied, after one more operation. -/
def Operation.written (past : List StampedLine) : Operation → List StampedLine
  | .push line => past ++ [line]
  | .clear | .beginReplay => []
  | .view _ | .navigate _ => past

/-- Whether an operation empties the log, for good or to fill it again. -/
def Operation.empties : Operation → Bool
  | .clear | .beginReplay => true
  | .push _ | .view _ | .navigate _ => false

/-- The line that an operation writes. -/
def Operation.line? : Operation → Option StampedLine
  | .push line => some line
  | .clear | .beginReplay | .view _ | .navigate _ => none

/-- The lines that were written after the last operation that empties the log. -/
def linesSinceEmptied (operations : List Operation) : List StampedLine :=
  (operations.rtakeWhile (!·.empties)).filterMap Operation.line?

theorem linesSinceEmptied_concat (operations : List Operation) (operation : Operation) :
    linesSinceEmptied (operations ++ [operation]) =
      operation.written (linesSinceEmptied operations) := by
  cases operation with
  | push line =>
      rw [linesSinceEmptied, List.rtakeWhile_concat_pos _ _ _ rfl, List.filterMap_append]
      rfl
  | clear => rw [linesSinceEmptied, List.rtakeWhile_concat_neg _ _ _ (by decide)]; rfl
  | beginReplay => rw [linesSinceEmptied, List.rtakeWhile_concat_neg _ _ _ (by decide)]; rfl
  | view height =>
      rw [linesSinceEmptied, List.rtakeWhile_concat_pos _ _ _ rfl, List.filterMap_append]
      exact List.append_nil _
  | navigate move =>
      rw [linesSinceEmptied, List.rtakeWhile_concat_pos _ _ _ rfl, List.filterMap_append]
      exact List.append_nil _

/-- The lines written in a run are those after its last operation that empties
the log. -/
theorem foldl_written_eq (operations : List Operation) :
    operations.foldl Operation.written [] = linesSinceEmptied operations := by
  induction operations using List.reverseRecOn with
  | nil => rfl
  | append_singleton operations operation inductionHypothesis =>
      rw [List.foldl_concat, inductionHypothesis, linesSinceEmptied_concat]

theorem foldl_written_push (past lines : List StampedLine) :
    (lines.map Operation.push).foldl Operation.written past = past ++ lines := by
  induction lines generalizing past with
  | nil => exact (List.append_nil past).symm
  | cons line rest inductionHypothesis =>
      rw [List.map_cons, List.foldl_cons, inductionHypothesis]
      exact List.append_assoc past [line] rest

theorem foldl_written_navigate (past : List StampedLine) (moves : List Navigation) :
    (moves.map Operation.navigate).foldl Operation.written past = past := by
  induction moves with
  | nil => rfl
  | cons move rest inductionHypothesis => exact inductionHypothesis

namespace LogSurface

/-- A log keeps the newest of some lines and counts the others. -/
structure Retains (surface : LogSurface) (past : List StampedLine) : Prop where
  lines_eq : surface.lines = past.rtake surface.capacity
  dropped_eq : surface.dropped = past.length - surface.capacity

namespace Retains

variable {surface : LogSurface} {past : List StampedLine}

theorem new (capacity tolerance : Nat) : (LogSurface.new capacity tolerance).Retains [] :=
  ⟨(List.rtake_nil _).symm, (Nat.zero_sub _).symm⟩

theorem length_lines
    (retains : surface.Retains past) :
    surface.lines.length = min surface.capacity past.length := by
  rw [retains.lines_eq, List.rtake, List.length_drop]
  omega

/-- A line is pushed out exactly when there are as many as there is room for. -/
theorem overflow_eq
    (retains : surface.Retains past) :
    surface.overflow = if surface.capacity ≤ past.length then 1 else 0 := by
  have full : surface.capacity ≤ surface.lines.length ↔ surface.capacity ≤ past.length := by
    rw [retains.length_lines]
    omega
  simp only [overflow, full]

theorem push
    (retains : surface.Retains past)
    (room : 0 < surface.capacity)
    (line : StampedLine) :
    (surface.push line).Retains (past ++ [line]) := by
  obtain ⟨others, capacity_eq⟩ := Nat.exists_eq_add_of_lt room
  rw [Nat.zero_add] at capacity_eq
  have pushedOut := retains.overflow_eq
  rw [push_eq]
  refine ⟨?_, ?_⟩
  · dsimp only
    have start : past.length - (others + 1) + surface.overflow = past.length - others := by
      split at pushedOut <;> omega
    rw [retains.lines_eq, capacity_eq, List.rtake_concat_succ, List.rtake, List.rtake,
      List.drop_drop, start]
  · dsimp only
    rw [retains.dropped_eq, List.length_append, List.length_singleton]
    split at pushedOut <;> omega

/-- Every operation leaves the newest of the lines that were written. -/
theorem perform
    (retains : surface.Retains past)
    (room : 0 < surface.capacity)
    (operation : Operation) :
    (surface.perform operation).Retains (operation.written past) := by
  cases operation with
  | push line => exact retains.push room line
  | clear => exact ⟨(List.rtake_nil _).symm, (Nat.zero_sub _).symm⟩
  | beginReplay => exact ⟨(List.rtake_nil _).symm, (Nat.zero_sub _).symm⟩
  | view height => exact ⟨retains.lines_eq, retains.dropped_eq⟩
  | navigate move => exact ⟨retains.lines_eq, retains.dropped_eq⟩

/-- In every run the log keeps the newest of the lines that were written since
it was last emptied. -/
theorem run
    (retains : surface.Retains past)
    (room : 0 < surface.capacity)
    (operations : List Operation) :
    (surface.run operations).Retains (operations.foldl Operation.written past) := by
  induction operations generalizing surface past with
  | nil => exact retains
  | cons operation rest inductionHypothesis =>
      have kept : 0 < (surface.perform operation).capacity := by
        rw [capacity_perform]
        exact room
      exact inductionHypothesis (retains.perform room operation) kept

end Retains

/-- Only emptying the log for good is counted as that. -/
theorem clears_perform (surface : LogSurface) (operation : Operation) :
    (surface.perform operation).clears = surface.clears + [operation].count .clear := by
  cases operation with
  | push line => rw [perform, push_eq]; rfl
  | _ => rfl

theorem clears_run (surface : LogSurface) (operations : List Operation) :
    (surface.run operations).clears = surface.clears + operations.count .clear := by
  induction operations generalizing surface with
  | nil => rfl
  | cons operation rest inductionHypothesis =>
      rw [← List.singleton_append, List.count_append, ← Nat.add_assoc, ← clears_perform]
      exact inductionHypothesis _

/-- In every run the log holds the newest of the lines that were written since
it was last emptied, in the order of writing: all of them, or as many as it has
room for, which is one at least.  It has counted the others as dropped, and how
often it was emptied for good.  Drawing or scrolling the log changes nothing but
the place of its view. -/
theorem keeps_newest_lines (capacity tolerance : Nat) (operations : List Operation) :
    let surface := (new capacity tolerance).run operations
    let written := linesSinceEmptied operations
    let kept := min (max capacity 1) written.length
    surface.lines = written.rtake kept ∧
      surface.lines.length = kept ∧
      surface.dropped = written.length - kept ∧
      surface.clears = operations.count .clear ∧
      (∀ height, ∃ scroll, surface.perform (.view height) = { surface with scroll }) ∧
      ∀ move, ∃ scroll, surface.perform (.navigate move) = { surface with scroll } := by
  intro surface written kept
  have room : 0 < (new capacity tolerance).capacity :=
    Nat.lt_of_lt_of_le Nat.zero_lt_one (Nat.le_max_right capacity 1)
  have retains : surface.Retains written := by
    have retained := (Retains.new capacity tolerance).run room operations
    rw [foldl_written_eq] at retained
    exact retained
  have capacity_eq : surface.capacity = max capacity 1 :=
    (new capacity tolerance).capacity_run operations
  have start : written.length - max capacity 1 = written.length - kept := by omega
  refine ⟨?_, ?_, ?_, ?_, fun height => ⟨_, rfl⟩, fun move => ⟨_, rfl⟩⟩
  · rw [retains.lines_eq, capacity_eq, List.rtake, start, List.rtake]
  · rw [retains.length_lines, capacity_eq]
  · rw [retains.dropped_eq, capacity_eq, start]
  · exact (clears_run _ _).trans (Nat.zero_add _)

end LogSurface
end Log
end SyncWatch
