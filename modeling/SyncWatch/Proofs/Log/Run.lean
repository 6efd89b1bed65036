import SyncWatch.Log.Surface

/-!
# Runs of the log on the screen

Lines are written to the log, it is emptied, drawn and scrolled, in any order.
In every run the place of the view is in step with the lines: it counts them
all, no row of the view lies beyond them, and a view that follows stands at the
end.  So a drawn view is full as long as there are lines to fill it.
-/

namespace SyncWatch
namespace Log

/-- How the reader moves the view. -/
inductive Navigation where
  | scrollBy (rows : Int)
  | page (pages : Int)
  | scrollToTop
  | scrubTo (percent : Nat)
  deriving DecidableEq, Repr

/-- One thing that happens to the log on the screen. -/
inductive Operation where
  | push (line : StampedLine)
  | clear
  | beginReplay
  /-- The log is drawn with a view of a given height. -/
  | view (height : Nat)
  | navigate (move : Navigation)
  deriving DecidableEq, Repr

namespace ScrollState

/-- The view shows no row beyond the log, and follows only at the end. -/
structure Settled (scroll : ScrollState) : Prop where
  offset_le : scroll.offset ≤ scroll.maxOffset
  atEnd : scroll.pinned = true → scroll.maxOffset - scroll.offset ≤ scroll.tolerance

theorem settled_settle (scroll : ScrollState) : scroll.settle.Settled := by
  rw [settle_eq]
  cases follows : scroll.pinned with
  | true => exact ⟨Nat.le_refl _, fun _ => by simp [maxOffset]⟩
  | false => exact ⟨Nat.min_le_right _ _, fun impossible => by simp at impossible⟩

/-- A view that was moved follows exactly when it came to the end. -/
theorem settled_moveTo
    {scroll : ScrollState}
    {offset : Nat}
    (within : offset ≤ scroll.maxOffset) :
    (scroll.moveTo offset).Settled :=
  ⟨within, of_decide_eq_true⟩

theorem settled_scrubTo (scroll : ScrollState) (percent : Nat) :
    (scroll.scrubTo percent).Settled := by
  rw [scrubTo]
  split
  next => exact ⟨Nat.le_refl _, fun _ => by simp [maxOffset]⟩
  next early =>
    have below : percent ≤ 98 := Nat.le_of_lt_succ (Nat.lt_of_not_le early)
    have scaled : scroll.maxOffset * percent ≤ scroll.maxOffset * 98 :=
      Nat.mul_le_mul_left _ below
    have within : (scroll.maxOffset * percent + 50) / 100 ≤ scroll.maxOffset := by omega
    exact ⟨within, fun impossible => by simp at impossible⟩

/-- The view after the reader moved it. -/
def navigate (scroll : ScrollState) : Navigation → ScrollState
  | .scrollBy rows => scroll.scrollBy rows
  | .page pages => scroll.page pages
  | .scrollToTop => scroll.scrollToTop
  | .scrubTo percent => scroll.scrubTo percent

theorem settled_navigate (scroll : ScrollState) (move : Navigation) :
    (scroll.navigate move).Settled := by
  cases move with
  | scrollBy rows => exact settled_moveTo (Nat.min_le_right _ _)
  | page pages => exact settled_moveTo (Nat.min_le_right _ _)
  | scrollToTop => exact settled_moveTo (Nat.zero_le _)
  | scrubTo percent => exact scroll.settled_scrubTo percent

/-- Moving the view changes nothing but its place, and no place is remembered. -/
theorem exists_navigate_eq (scroll : ScrollState) (move : Navigation) :
    ∃ offset pinned, scroll.navigate move = { scroll with held := none, offset, pinned } := by
  cases move with
  | scrubTo percent =>
      rw [navigate, scrubTo]
      split
      · exact ⟨_, _, rfl⟩
      · exact ⟨_, _, rfl⟩
  | _ => exact ⟨_, _, rfl⟩

end ScrollState

namespace LogSurface

/-- How many lines a new line pushes out: one when the log is full. -/
def overflow (surface : LogSurface) : Nat :=
  if surface.capacity ≤ surface.lines.length then 1 else 0

/-- The lines that are pushed out go before the new line comes, and the view
settles after that. -/
theorem push_eq (surface : LogSurface) (line : StampedLine) :
    surface.push line =
      { surface with
        lines := surface.lines.drop surface.overflow ++ [line]
        dropped := surface.dropped + surface.overflow
        scroll :=
          (surface.scroll.beforeMutation.afterEvict surface.overflow).afterAppend
            (surface.lines.drop surface.overflow ++ [line]).length } := by
  by_cases full : surface.capacity ≤ surface.lines.length
  · simp only [push, overflow, full, if_true]
  · simp [push, overflow, full]

/-- A view that follows a new line goes to the end.  Another one moves up with
its lines, or with the place that it remembers, when a line is pushed out. -/
theorem scroll_push (surface : LogSurface) (line : StampedLine) :
    (surface.push line).scroll =
      { surface.scroll with
        pinned := surface.scroll.follows
        contentLength := (surface.push line).lines.length
        held := surface.scroll.held.map (· - surface.overflow)
        offset :=
          if surface.scroll.follows then
            (surface.push line).lines.length - surface.scroll.viewport
          else
            min (surface.scroll.held.getD surface.scroll.offset - surface.overflow)
              ((surface.push line).lines.length - surface.scroll.viewport) } := by
  rw [push_eq]
  simp only [ScrollState.beforeMutation_eq, ScrollState.afterEvict, ScrollState.afterAppend,
    ScrollState.settle_eq, ScrollState.maxOffset]
  cases decided : surface.scroll.follows with
  | true => rfl
  | false => cases surface.scroll.held <;> rfl

/-- The log after the reader moved its view. -/
def navigate (surface : LogSurface) (move : Navigation) : LogSurface :=
  { surface with scroll := surface.scroll.navigate move }

/-- The log after something happened to it. -/
def perform (surface : LogSurface) : Operation → LogSurface
  | .push line => surface.push line
  | .clear => surface.clear
  | .beginReplay => surface.beginReplay
  | .view height => surface.withViewport height
  | .navigate move => surface.navigate move

/-- The log after some operations. -/
def run (surface : LogSurface) (operations : List Operation) : LogSurface :=
  operations.foldl perform surface

/-- Nothing that happens to a log changes how many lines it keeps. -/
@[simp] theorem capacity_perform (surface : LogSurface) (operation : Operation) :
    (surface.perform operation).capacity = surface.capacity := by
  cases operation with
  | push line => rw [perform, push_eq]
  | _ => rfl

@[simp] theorem capacity_run (surface : LogSurface) (operations : List Operation) :
    (surface.run operations).capacity = surface.capacity := by
  induction operations generalizing surface with
  | nil => rfl
  | cons operation rest inductionHypothesis =>
      exact (inductionHypothesis _).trans (surface.capacity_perform operation)

/-- Only drawing the log changes the height of its view. -/
theorem viewport_run
    {operations : List Operation}
    (undrawn : ∀ height, .view height ∉ operations)
    (surface : LogSurface) :
    (surface.run operations).scroll.viewport = surface.scroll.viewport := by
  induction operations generalizing surface with
  | nil => rfl
  | cons operation rest inductionHypothesis =>
      have kept : (surface.perform operation).scroll.viewport = surface.scroll.viewport := by
        cases operation with
        | push line => rw [perform, scroll_push]
        | clear => rfl
        | beginReplay => rw [perform, beginReplay, ScrollState.beginReplay_eq]
        | view height => exact absurd List.mem_cons_self (undrawn height)
        | navigate move =>
            obtain ⟨offset, pinned, moved⟩ := surface.scroll.exists_navigate_eq move
            rw [perform, navigate, moved]
      have later (height : Nat) : .view height ∉ rest :=
        fun drawn => undrawn height (List.mem_cons_of_mem _ drawn)
      exact (inductionHypothesis later _).trans kept

/-- Only a log that is filled again remembers a place. -/
theorem held_run
    {operations : List Operation}
    (once : .beginReplay ∉ operations)
    {surface : LogSurface}
    (free : surface.scroll.held = none) :
    (surface.run operations).scroll.held = none := by
  induction operations generalizing surface with
  | nil => exact free
  | cons operation rest inductionHypothesis =>
      have kept : (surface.perform operation).scroll.held = none := by
        cases operation with
        | push line =>
            rw [perform, scroll_push, free]
            rfl
        | clear => rfl
        | beginReplay => exact absurd List.mem_cons_self once
        | view height =>
            rw [perform, withViewport, ScrollState.setViewport]
            split
            · exact free
            · rw [ScrollState.settle_eq]
              exact free
        | navigate move =>
            obtain ⟨offset, pinned, moved⟩ := surface.scroll.exists_navigate_eq move
            rw [perform, navigate, moved]
      exact inductionHypothesis (fun again => once (List.mem_cons_of_mem _ again)) kept

/-- The view is in step with the lines. -/
structure InStep (tolerance : Nat) (surface : LogSurface) : Prop where
  tolerance_eq : surface.scroll.tolerance = tolerance
  contentLength_eq : surface.scroll.contentLength = surface.lines.length
  settled : surface.scroll.Settled

namespace InStep

variable {tolerance : Nat} {surface : LogSurface}

theorem new (capacity tolerance : Nat) : (LogSurface.new capacity tolerance).InStep tolerance :=
  ⟨rfl, rfl, Nat.le_refl _, fun _ => Nat.zero_le _⟩

theorem push
    (inStep : surface.InStep tolerance)
    (line : StampedLine) :
    (surface.push line).InStep tolerance := by
  refine ⟨?_, ?_, ?_⟩
  · rw [scroll_push]
    exact inStep.tolerance_eq
  · rw [scroll_push]
  · rw [push_eq]
    exact ScrollState.settled_settle _

/-- An empty log has its only place at the top. -/
theorem of_empty
    (tolerance_eq : surface.scroll.tolerance = tolerance)
    (empty : surface.lines = [])
    (uncounted : surface.scroll.contentLength = 0)
    (top : surface.scroll.offset = 0) :
    surface.InStep tolerance := by
  have lowest : surface.scroll.maxOffset = 0 := by simp [ScrollState.maxOffset, uncounted]
  refine ⟨tolerance_eq, by rw [uncounted, empty]; rfl, ?_, fun _ => ?_⟩
  · rw [top]
    exact Nat.zero_le _
  · rw [lowest]
    simp

theorem clear (inStep : surface.InStep tolerance) : surface.clear.InStep tolerance :=
  of_empty inStep.tolerance_eq rfl rfl rfl

theorem beginReplay
    (inStep : surface.InStep tolerance) :
    surface.beginReplay.InStep tolerance := by
  rw [LogSurface.beginReplay, ScrollState.beginReplay_eq]
  exact of_empty inStep.tolerance_eq rfl rfl rfl

/-- A view of the same height stays, and one of another height settles. -/
theorem withViewport
    (inStep : surface.InStep tolerance)
    (height : Nat) :
    (surface.withViewport height).InStep tolerance := by
  rw [LogSurface.withViewport, ScrollState.setViewport]
  split
  · exact inStep
  · refine ⟨?_, ?_, ScrollState.settled_settle _⟩
    · rw [ScrollState.settle_eq]
      exact inStep.tolerance_eq
    · rw [ScrollState.settle_eq]
      exact inStep.contentLength_eq

theorem navigate
    (inStep : surface.InStep tolerance)
    (move : Navigation) :
    (surface.navigate move).InStep tolerance := by
  obtain ⟨offset, pinned, equal⟩ := surface.scroll.exists_navigate_eq move
  refine ⟨?_, ?_, surface.scroll.settled_navigate move⟩
  · rw [LogSurface.navigate, equal]
    exact inStep.tolerance_eq
  · rw [LogSurface.navigate, equal]
    exact inStep.contentLength_eq

theorem perform
    (inStep : surface.InStep tolerance)
    (operation : Operation) :
    (surface.perform operation).InStep tolerance := by
  cases operation with
  | push line => exact inStep.push line
  | clear => exact inStep.clear
  | beginReplay => exact inStep.beginReplay
  | view height => exact inStep.withViewport height
  | navigate move => exact inStep.navigate move

/-- In every run the view stays in step with the lines. -/
theorem run
    (inStep : surface.InStep tolerance)
    (operations : List Operation) :
    (surface.run operations).InStep tolerance := by
  induction operations generalizing surface with
  | nil => exact inStep
  | cons operation rest inductionHypothesis =>
      exact inductionHypothesis (inStep.perform operation)

/-- The view is full as long as there are lines to fill it. -/
theorem length_window
    (inStep : surface.InStep tolerance) :
    surface.window.length = min surface.scroll.viewport surface.lines.length := by
  have within := inStep.settled.offset_le
  rw [ScrollState.maxOffset, inStep.contentLength_eq] at within
  rw [window, List.length_take, List.length_drop]
  omega

end InStep

theorem window_isInfix (surface : LogSurface) : surface.window <:+: surface.lines :=
  (List.take_prefix _ _).isInfix.trans (List.drop_suffix _ _).isInfix

@[simp] theorem lines_withViewport (surface : LogSurface) (height : Nat) :
    (surface.withViewport height).lines = surface.lines := rfl

@[simp] theorem viewport_withViewport (surface : LogSurface) (height : Nat) :
    (surface.withViewport height).scroll.viewport = height := by
  rw [withViewport, ScrollState.setViewport]
  split
  next same => exact same.symm
  next => rw [ScrollState.settle_eq]

/-- In every run the view counts the lines of the log, does not reach beyond
them, and stands at the end, within the tolerance, when it follows.  So the
lines that are drawn are consecutive ones, as many as the view has rows or as
there are. -/
theorem view_is_full (capacity tolerance : Nat) (operations : List Operation) :
    let surface := (new capacity tolerance).run operations
    surface.scroll.contentLength = surface.lines.length ∧
      surface.scroll.offset ≤ surface.scroll.maxOffset ∧
      (surface.scroll.pinned = true →
        surface.scroll.maxOffset - surface.scroll.offset ≤ tolerance) ∧
      ∀ height,
        let drawn := surface.withViewport height
        drawn.window <:+: surface.lines ∧
          drawn.window.length = min height surface.lines.length := by
  intro surface
  have inStep : surface.InStep tolerance := (InStep.new capacity tolerance).run operations
  refine ⟨inStep.contentLength_eq, inStep.settled.offset_le, ?_, ?_⟩
  · intro follows
    have atEnd := inStep.settled.atEnd follows
    rwa [inStep.tolerance_eq] at atEnd
  · intro height drawn
    have length := (inStep.withViewport height).length_window
    rw [viewport_withViewport, lines_withViewport] at length
    exact ⟨drawn.window_isInfix, length⟩

end LogSurface
end Log
end SyncWatch
