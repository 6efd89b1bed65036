import SyncWatch.Feed.Reception

/-!
# What a log shows

The texts and styles in a log depend on what was asked of it and not on the
place of the view or the times of arrival.  They are what a plain list shows
that keeps as many lines as the log does.
-/

namespace SyncWatch

open Feed

namespace Feed

/-- Actions that follow others start from the log that those leave. -/
theorem LogAction.performAll_append
    {σ : Type}
    (sink : Log.Sink σ)
    (renderer : Log.Renderer)
    (debug : Bool)
    (first second : List LogAction)
    (log : σ) :
    performAll sink renderer debug (first ++ second) log =
      performAll sink renderer debug second (performAll sink renderer debug first log) :=
  List.foldl_append

end Feed

namespace Log

/-- A list that keeps only its newest lines. -/
def Sink.newest (capacity : Nat) : Sink (List StyledText) where
  push line lines :=
    if capacity ≤ lines.length then lines.drop 1 ++ [line] else lines ++ [line]
  clear _ := []
  beginReplay _ := []

/-- One sink simulates another when they keep a relation between their logs. -/
structure Sink.Simulates
    {σ τ : Type}
    (sink : Sink σ)
    (other : Sink τ)
    (related : σ → τ → Prop) : Prop where
  push : ∀ line {log model}, related log model →
    related (sink.push line log) (other.push line model)
  clear : ∀ {log model}, related log model → related (sink.clear log) (other.clear model)
  beginReplay : ∀ {log model}, related log model →
    related (sink.beginReplay log) (other.beginReplay model)

namespace Sink.Simulates

variable {σ τ : Type} {sink : Sink σ} {other : Sink τ} {related : σ → τ → Prop}

/-- A simulation is kept by every action. -/
theorem perform
    (simulates : sink.Simulates other related)
    (renderer : Renderer)
    (debug : Bool)
    (action : LogAction)
    {log : σ}
    {model : τ}
    (holds : related log model) :
    related (action.perform sink renderer debug log)
      (action.perform other renderer debug model) := by
  cases action with
  | append text => exact simulates.push _ holds
  | clear => exact simulates.clear holds
  | beginReplay => exact simulates.beginReplay holds

/-- A simulation is kept by any sequence of actions. -/
theorem performAll
    (simulates : sink.Simulates other related)
    (renderer : Renderer)
    (debug : Bool)
    (actions : List LogAction)
    {log : σ}
    {model : τ}
    (holds : related log model) :
    related (LogAction.performAll sink renderer debug actions log)
      (LogAction.performAll other renderer debug actions model) := by
  induction actions generalizing log model with
  | nil => exact holds
  | cons action rest inductionHypothesis =>
      exact inductionHypothesis (simulates.perform renderer debug action holds)

end Sink.Simulates

namespace LogSurface

/-- The texts and styles of the lines, without their times of arrival. -/
def contents (surface : LogSurface) : List StyledText :=
  surface.lines.map StampedLine.content

/-- A surface with room for a number of lines shows some lines. -/
def Shows (capacity : Nat) (surface : LogSurface) (lines : List StyledText) : Prop :=
  surface.capacity = capacity ∧ surface.contents = lines

/-- A new line is shown at the end, and the oldest line gives way to it in a
full log. -/
theorem Shows.push
    {capacity : Nat}
    {surface : LogSurface}
    {lines : List StyledText}
    (shows : Shows capacity surface lines)
    (line : StampedLine) :
    Shows capacity (surface.push line) ((Sink.newest capacity).push line.content lines) := by
  obtain ⟨rfl, rfl⟩ := shows
  have length : surface.contents.length = surface.lines.length := List.length_map _
  by_cases full : surface.capacity ≤ surface.lines.length
  · refine ⟨?_, ?_⟩
    · simp only [LogSurface.push, full, if_true]
    · simp only [LogSurface.push, Sink.newest, full, length, if_true]
      simp [contents]
  · refine ⟨?_, ?_⟩
    · simp only [LogSurface.push, full, if_false]
    · simp only [LogSurface.push, Sink.newest, full, length, if_false]
      simp [contents]

/-- A surface shows what a list with as much room holds, whenever lines come. -/
theorem sink_simulates_newest (now : ClockTime) (capacity : Nat) :
    (sink now).Simulates (Sink.newest capacity) (Shows capacity) where
  push line _ _ shows := shows.push ⟨line, now⟩
  clear shows := ⟨shows.1, rfl⟩
  beginReplay shows := ⟨shows.1, rfl⟩

end LogSurface
end Log
end SyncWatch
