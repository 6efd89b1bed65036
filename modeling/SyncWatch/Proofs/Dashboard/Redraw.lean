import SyncWatch.Proofs.Dashboard.Run
import SyncWatch.Proofs.Log.Run
import SyncWatch.Proofs.Screen.Picture

/-!
# Drawing twice

Drawing gives the log its view, and the title of the log is written before that.
So the place in the title is the one of the view that was drawn last, and a
second drawing of the same dashboard may correct it.  Nothing else differs, and
a third drawing shows what the second one showed.
-/

namespace SyncWatch

open Feed Log Progress Screen

namespace Log
namespace ScrollState

/-- Another height does not make the view follow or stay. -/
theorem pinned_setViewport (scroll : ScrollState) (height : Nat) :
    (scroll.setViewport height).pinned = scroll.pinned := by
  rw [setViewport]
  split
  next => rfl
  next => rw [settle_eq]

end ScrollState

/-- A log that has a view of some height already is not changed by giving it one. -/
theorem LogSurface.withViewport_of_viewport
    {surface : LogSurface}
    {height : Nat}
    (same : surface.scroll.viewport = height) :
    surface.withViewport height = surface := by
  have kept : surface.scroll.setViewport height = surface.scroll := if_pos same.symm
  rw [withViewport, kept]

end Log

namespace Feed
namespace LogAction

/-- What an action does to a log on the screen. -/
def operation
    (renderer : Renderer)
    (debug : Bool)
    (now : ClockTime) :
    LogAction → Operation
  | .append text => .push ⟨renderer debug text, now⟩
  | .clear => .clear
  | .beginReplay => .beginReplay

theorem performAll_sink
    (renderer : Renderer)
    (debug : Bool)
    (now : ClockTime)
    (actions : List LogAction)
    (surface : LogSurface) :
    performAll (LogSurface.sink now) renderer debug actions surface =
      surface.run (actions.map (operation renderer debug now)) := by
  rw [performAll, LogSurface.run, List.foldl_map]
  congr
  funext surface action
  cases action <;> rfl

/-- No action of a feed draws the log. -/
theorem view_not_mem_operations
    (renderer : Renderer)
    (debug : Bool)
    (now : ClockTime)
    (actions : List LogAction)
    (height : Nat) :
    .view height ∉ actions.map (operation renderer debug now) := by
  rw [List.mem_map]
  rintro ⟨action, _, drawn⟩
  cases action <;> contradiction

end LogAction
end Feed

namespace Dashboard

/-- The rows of the log on a screen of a given size. -/
def logRows (width height : Nat) : Nat :=
  (logArea width height).inner.height

/-- How many rows a drawing gives the log. -/
def Step.rows? : Step → Option Nat
  | .draw width height => some (logRows width height)
  | _ => none

/-- How many rows the log had when it was drawn last; none if it never was. -/
def lastRows (steps : List Step) : Nat :=
  (steps.filterMap Step.rows?).getLastD 0

/-- What the reader does to the log is to empty it or to move its view. -/
theorem log_act (dashboard : Dashboard) (action : Action) (now : Instant) :
    ∃ operations, (∀ height, .view height ∉ operations) ∧
      (dashboard.act action now).log = dashboard.log.run operations := by
  cases action with
  | scrollUp => exact ⟨[.navigate (.scrollBy (-1))], by simp, rfl⟩
  | scrollDown => exact ⟨[.navigate (.scrollBy 1)], by simp, rfl⟩
  | pageUp => exact ⟨[.navigate (.page (-1))], by simp, rfl⟩
  | pageDown => exact ⟨[.navigate (.page 1)], by simp, rfl⟩
  | goToTop => exact ⟨[.navigate .scrollToTop], by simp, rfl⟩
  | goToBottom => exact ⟨[.navigate (.scrubTo 100)], by simp, rfl⟩
  | scrub percent => exact ⟨[.navigate (.scrubTo percent)], by simp, rfl⟩
  | clear => exact ⟨[.clear], by simp, rfl⟩
  | reconnect =>
      refine ⟨[], by simp, ?_⟩
      simp only [act]
      split <;> rfl
  | _ => exact ⟨[], by simp, rfl⟩

/-- Only drawing changes the height of the view. -/
theorem log_step
    {step : Step}
    (undrawn : step.rows? = none)
    (dashboard : Dashboard) :
    ∃ operations, (∀ height, .view height ∉ operations) ∧
      (dashboard.step step).log = dashboard.log.run operations := by
  cases step with
  | receive event clock =>
      exact ⟨_, LogAction.view_not_mem_operations _ _ _ _,
        (dashboard.log_receive event clock).trans (LogAction.performAll_sink _ _ _ _ _)⟩
  | act action now => exact dashboard.log_act action now
  | checkSilence now =>
      refine ⟨[], by simp, ?_⟩
      simp only [Dashboard.step, checkSilence]
      split <;> rfl
  | draw width height => contradiction
  | push line => exact ⟨[.push line], by simp, rfl⟩
  | _ => exact ⟨[], by simp, rfl⟩

theorem viewport_step (dashboard : Dashboard) (step : Step) :
    (dashboard.step step).log.scroll.viewport =
      step.rows?.getD dashboard.log.scroll.viewport := by
  cases drawn : step.rows? with
  | none =>
      obtain ⟨operations, undrawn, log⟩ := log_step drawn dashboard
      rw [log, LogSurface.viewport_run undrawn]
      rfl
  | some rows =>
      cases step with
      | draw width height =>
          rw [← Option.some.inj drawn]
          exact dashboard.log.viewport_withViewport _
      | _ => contradiction

/-- In every run the view has the height of the last drawing. -/
theorem viewport_run (dashboard : Dashboard) (steps : List Step) :
    (dashboard.run steps).log.scroll.viewport =
      (steps.filterMap Step.rows?).getLastD dashboard.log.scroll.viewport := by
  induction steps generalizing dashboard with
  | nil => rfl
  | cons step rest inductionHypothesis =>
      refine (inductionHypothesis (dashboard.step step)).trans ?_
      rw [viewport_step]
      cases drawn : step.rows? with
      | none => rw [List.filterMap_cons_none drawn]; rfl
      | some rows => rw [List.filterMap_cons_some drawn, List.getLastD_cons]; rfl

/-- A log that had so many rows when it was drawn last is not changed by drawing
it. -/
theorem drawn_of_viewport
    {dashboard : Dashboard}
    {width height : Nat}
    (same : dashboard.log.scroll.viewport = logRows width height) :
    dashboard.drawn width height = dashboard := by
  rw [drawn, changeLog, ← logRows, LogSurface.withViewport_of_viewport same]

theorem drawn_drawn (dashboard : Dashboard) (width height : Nat) :
    (dashboard.drawn width height).drawn width height = dashboard.drawn width height :=
  drawn_of_viewport (dashboard.log.viewport_withViewport _)

/-- The layers under the place in the title of the log. -/
def belowPosition (dashboard : Dashboard) (width height : Nat) : Picture :=
  dashboard.headerPicture width ++ dashboard.progressPicture width ++
    [.box (logArea width height) borderStyle]

/-- The layers over the place in the title of the log. -/
def abovePosition (dashboard : Dashboard) (width height : Nat) : Picture :=
  .line (titleArea (logArea width height)) [⟨dashboard.logTitle, .of Palette.header⟩] ::
    .lines (logArea width height).inner (dashboard.logLines (logRows width height)) ::
      dashboard.footerPicture width height

/-- The place in the title of the log. -/
def positionLayer (dashboard : Dashboard) (width height : Nat) : Layer :=
  .lineToRight (titleArea (logArea width height)) [⟨dashboard.positionText, dimStyle⟩]

theorem picture_eq (dashboard : Dashboard) (width height : Nat) :
    dashboard.picture width height =
      dashboard.belowPosition width height ++
        dashboard.positionLayer width height :: dashboard.abovePosition width height := by
  simp [picture, logPicture, belowPosition, positionLayer, abovePosition, logRows]

/-- The lines in view are those of the view that is drawn. -/
theorem logLines_drawn (dashboard : Dashboard) (width height : Nat) :
    (dashboard.drawn width height).logLines (logRows width height) =
      dashboard.logLines (logRows width height) := by
  have kept :
      (dashboard.drawn width height).log.withViewport (logRows width height) =
        dashboard.log.withViewport (logRows width height) :=
    LogSurface.withViewport_of_viewport (dashboard.log.viewport_withViewport _)
  rw [logLines, logLines, kept]
  rfl

theorem abovePosition_drawn (dashboard : Dashboard) (width height : Nat) :
    (dashboard.drawn width height).abovePosition width height =
      dashboard.abovePosition width height := by
  rw [abovePosition, logLines_drawn]
  rfl

/-- A second drawing differs from the first one at most in the place in the
title of the log. -/
theorem picture_drawn (dashboard : Dashboard) (width height : Nat) :
    (dashboard.drawn width height).picture width height =
      dashboard.belowPosition width height ++
        (dashboard.drawn width height).positionLayer width height ::
          dashboard.abovePosition width height := by
  rw [picture_eq, abovePosition_drawn]
  rfl

/-- Outside the row of that title both drawings have the same cells. -/
theorem cell_picture_drawn
    {y : Nat}
    (dashboard : Dashboard)
    (width height x : Nat)
    (other : y ≠ (logArea width height).y) :
    ((dashboard.drawn width height).picture width height).cell x y =
      (dashboard.picture width height).cell x y := by
  have outside : y ≠ (titleArea (logArea width height)).y := other
  have unmarked (shown : Dashboard) : (shown.positionLayer width height).mark? x y = none :=
    Layer.mark?_lineToRight outside _ x
  rw [picture_drawn, picture_eq, Picture.cell_of_unmarked (unmarked _),
    Picture.cell_of_unmarked (unmarked _)]

theorem frame_drawn_of_positionText
    {dashboard : Dashboard}
    {width height : Nat}
    (same : (dashboard.drawn width height).positionText = dashboard.positionText) :
    (dashboard.drawn width height).frame width height = dashboard.frame width height := by
  rw [frame, frame, picture_drawn, positionLayer, same, picture_eq, positionLayer]

/-- The title names the percentage unless the view follows. -/
theorem positionText_drawn
    {dashboard : Dashboard}
    {width height : Nat}
    (same : dashboard.log.scroll.pinned = true ∨
      (dashboard.drawn width height).log.scroll.positionPercent =
        dashboard.log.scroll.positionPercent) :
    (dashboard.drawn width height).positionText = dashboard.positionText := by
  have pinned : (dashboard.drawn width height).log.scroll.pinned = dashboard.log.scroll.pinned :=
    dashboard.log.scroll.pinned_setViewport _
  have debug : (dashboard.drawn width height).coordinator.debug = dashboard.coordinator.debug :=
    rfl
  rw [positionText, positionText, pinned, debug]
  obtain follows | percent := same
  · rw [follows]
    rfl
  · rw [percent]

/-- In every run a second drawing leaves the dashboard as the first one did, so
that all further ones show the same.  It shows what the first one showed outside
the row with the title of the log, and there too when the view follows, when the
percentage stays, and when the log had as many rows before. -/
theorem redraw (settings : Settings) (steps : List Step) (width height : Nat) :
    let dashboard := (new settings).run steps
    let again := dashboard.drawn width height
    again.drawn width height = again ∧
      (∀ x y, y ≠ (logArea width height).y →
        (again.picture width height).cell x y = (dashboard.picture width height).cell x y) ∧
      (dashboard.log.scroll.pinned = true ∨
          again.log.scroll.positionPercent = dashboard.log.scroll.positionPercent ∨
          lastRows steps = logRows width height →
        again.frame width height = dashboard.frame width height) := by
  intro dashboard again
  refine ⟨dashboard.drawn_drawn width height, ?_, ?_⟩
  · intro x y other
    exact dashboard.cell_picture_drawn width height x other
  · rintro (follows | percent | rows)
    · exact frame_drawn_of_positionText (positionText_drawn (.inl follows))
    · exact frame_drawn_of_positionText (positionText_drawn (.inr percent))
    · have viewport : dashboard.log.scroll.viewport = lastRows steps :=
        (new settings).viewport_run steps
      have undrawn : again = dashboard := drawn_of_viewport (viewport.trans rows)
      rw [undrawn]

/-- Four lines, of which three are in view.  A larger screen is drawn twice alike
while the view follows, a screen of the same size when the reader stands at the
top, and a screen of any size once all lines were in view. -/
theorem redraw_alike :
    let lines : StreamEvent := ⟨.verbose, 1, .message ⟨"message", "a\nb\nc\nd"⟩⟩
    let following : List Step := [.start 0, .receive lines ⟨10, 0, 0⟩, .draw 40 14]
    let reading : List Step := following ++ [.act (.scrub 0) 5]
    let whole : List Step := reading ++ [.draw 40 20]
    let first := (new {}).run following
    let second := (new {}).run reading
    let third := (new {}).run whole
    (first.log.scroll.pinned = true ∧
        (first.drawn 40 20).frame 40 20 = first.frame 40 20) ∧
      (second.log.scroll.pinned = false ∧ lastRows reading = logRows 40 14 ∧
        (second.drawn 40 14).frame 40 14 = second.frame 40 14) ∧
      third.log.scroll.pinned = false ∧ lastRows whole ≠ logRows 40 22 ∧
        (third.drawn 40 22).log.scroll.positionPercent = third.log.scroll.positionPercent ∧
        (third.drawn 40 22).frame 40 22 = third.frame 40 22 := by
  intro lines following reading whole first second third
  have follows : first.log.scroll.pinned = true := by decide +kernel
  have rows : lastRows reading = logRows 40 14 := rfl
  have percent : (third.drawn 40 22).log.scroll.positionPercent =
      third.log.scroll.positionPercent := by decide +kernel
  refine ⟨⟨follows, (redraw {} following 40 20).2.2 (.inl follows)⟩, ⟨?_, rows, ?_⟩, ?_, ?_,
    percent, (redraw {} whole 40 22).2.2 (.inr (.inl percent))⟩
  · decide +kernel
  · exact (redraw {} reading 40 14).2.2 (.inr (.inr rows))
  · decide +kernel
  · decide +kernel

/-- The reader stands at the top of four lines, of which three were in view, and
the screen grows: the first drawing still shows the place in the small view, and
the second one that nothing lies outside the large one. -/
theorem redraw_after_resize :
    let lines : StreamEvent := ⟨.verbose, 1, .message ⟨"message", "a\nb\nc\nd"⟩⟩
    let steps : List Step :=
      [.start 0, .receive lines ⟨10, 0, 0⟩, .draw 40 14, .act (.scrub 0) 5, .act .resize 6]
    let dashboard := (new {}).run steps
    let again := dashboard.drawn 40 20
    (dashboard.frame 40 20)[7]?.map (rowText 0) =
        some "┌ Details (verbose log) ─────────── 0% ┐" ∧
      (again.frame 40 20)[7]?.map (rowText 0) =
        some "┌ Details (verbose log) ───────── 100% ┐" ∧
      again.frame 40 20 ≠ dashboard.frame 40 20 := by
  intro lines steps dashboard again
  have first : (dashboard.frame 40 20)[7]?.map (rowText 0) =
      some "┌ Details (verbose log) ─────────── 0% ┐" := by decide +kernel
  have second : (again.frame 40 20)[7]?.map (rowText 0) =
      some "┌ Details (verbose log) ───────── 100% ┐" := by decide +kernel
  refine ⟨first, second, fun same => ?_⟩
  rw [same, first] at second
  exact absurd second (by decide)

end Dashboard
end SyncWatch
