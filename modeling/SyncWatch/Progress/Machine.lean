import SyncWatch.Progress.Payload

/-!
# The progress of a run

The percentage and the timeline follow from the events and snapshots of the
feeds.  Within a run nothing is ever lowered; only the start of a run sets both
back, and a full hundred is kept for the end of the run.
-/

namespace SyncWatch
namespace Progress

/-- What the progress bar shows. -/
structure ProgressState where
  percent : Nat := 0
  timeline : Timeline := {}
  deriving DecidableEq, Repr

namespace ProgressState

/-- The percentage right after the start of a run. -/
def startAnchor : Nat := 5

/-- The percentage when the snapshots are being compared. -/
def preAnchor : Nat := 33

/-- The percentage when writes begin. -/
def postAnchor : Nat := 66

/-- The highest percentage before the end of the run. -/
def postCeiling : Nat := 99

/-- The percentage at the end of the run. -/
def doneAnchor : Nat := 100

/-- The latest milestone of the run. -/
def phase (state : ProgressState) : Phase :=
  state.timeline.phase

/-- The state at the start of a run. -/
def started : ProgressState where
  percent := startAnchor
  timeline := Timeline.empty.raise .start

/-- Raise the percentage to at least a given one. -/
def bump (state : ProgressState) (percent : Nat) : ProgressState :=
  { state with percent := max state.percent percent }

/-- Raise the timeline to a milestone and the percentage to its anchor. -/
def raise (state : ProgressState) (phase : Phase) (anchor : Nat) : ProgressState :=
  ProgressState.bump { state with timeline := state.timeline.raise phase } anchor

/-- The state at the end of a run. -/
def finish (state : ProgressState) : ProgressState where
  percent := doneAnchor
  timeline := state.timeline.raise .done

/-- The percentage that a share of the writes stands for. -/
def percentOfFraction (fraction : Float) : Nat :=
  let span := Float.ofNat (doneAnchor - postAnchor)
  let exact := Float.ofNat postAnchor + fraction * span
  min exact.floor.toUInt8.toNat postCeiling

/-- The state after an event, or nothing when progress does not depend on it. -/
def afterEvent? (state : ProgressState) (event : SyncEvent) : Option ProgressState :=
  match event.kind with
  | .runStart => some started
  | .preSync => some (state.raise .pre preAnchor)
  | .applyStart | .applyDone => some (state.raise .post postAnchor)
  | .applyProgress =>
    let raised := state.raise .post postAnchor
    match event.fraction with
    | some fraction => some (raised.bump (percentOfFraction fraction))
    | none => some raised
  | .runDone => some state.finish
  | .other => none

/-- The state after an event. -/
def afterEvent (state : ProgressState) (event : SyncEvent) : ProgressState :=
  (state.afterEvent? event).getD state

/-- The state after a snapshot, which only ever raises it. -/
def afterSummary (state : ProgressState) (summary : RunSummary) : ProgressState :=
  match summary.timeline.phase with
  | .done => state.finish
  | .post => state.raise .post postAnchor
  | .pre => state.raise .pre preAnchor
  | .start => state.raise .start startAnchor
  | .idle => state

/-- The state after any payload. -/
def afterPayload (state : ProgressState) : SummaryPayload → ProgressState
  | .event event => state.afterEvent event
  | .snapshot summary => state.afterSummary summary

end ProgressState

/-- What the display was last told, and how often it was told. -/
structure ProgressView where
  state : ProgressState := {}
  updates : Nat := 0
  deriving DecidableEq, Repr

/-- Tell the display a state. -/
def ProgressView.update (view : ProgressView) (state : ProgressState) : ProgressView where
  state := state
  updates := view.updates + 1

/-- The progress of a run together with what the display was told about it. -/
structure ProgressMonitor where
  state : ProgressState := {}
  view : ProgressView := {}
  deriving DecidableEq, Repr

namespace ProgressMonitor

/-- Take a new state over and tell the display. -/
def advance (monitor : ProgressMonitor) (state : ProgressState) : ProgressMonitor where
  state := state
  view := monitor.view.update state

/-- Whether a payload concerns the progress in a given state.  An event does
unless its kind is `other`, and a snapshot does when it changes the state. -/
def concerns (monitor : ProgressMonitor) : SummaryPayload → Bool
  | .event event => (monitor.state.afterEvent? event).isSome
  | .snapshot summary => monitor.state.afterSummary summary ≠ monitor.state

/-- Take one payload in, and tell the display if the payload concerns it. -/
def apply (monitor : ProgressMonitor) (payload : SummaryPayload) : ProgressMonitor :=
  if monitor.concerns payload then
    monitor.advance (monitor.state.afterPayload payload)
  else
    monitor

/-- Take one payload in without telling the display. -/
def applyQuietly (monitor : ProgressMonitor) (payload : SummaryPayload) : ProgressMonitor :=
  { monitor with state := monitor.state.afterPayload payload }

end ProgressMonitor
end Progress
end SyncWatch
