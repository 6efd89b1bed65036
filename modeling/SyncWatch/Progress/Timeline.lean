/-!
# The timeline of a run

A run passes four milestones in a fixed order.  Raising one of them raises all
those before it, so a timeline that starts empty never shows a later milestone
without the earlier ones.
-/

namespace SyncWatch
namespace Progress

/-- The milestone that a run has most recently reached. -/
inductive Phase where
  /-- No run was seen yet. -/
  | idle
  | start
  | pre
  | post
  | done
  deriving DecidableEq, Repr

namespace Phase

/-- The place of a milestone in the order of the run. -/
def rank : Phase → Nat
  | .idle => 0
  | .start => 1
  | .pre => 2
  | .post => 3
  | .done => 4

/-- The name of a milestone. -/
def label : Phase → String
  | .idle => "idle"
  | .start => "start"
  | .pre => "pre"
  | .post => "post"
  | .done => "done"

end Phase

/-- Which milestones a run has passed. -/
structure Timeline where
  start : Bool := false
  pre : Bool := false
  post : Bool := false
  done : Bool := false
  deriving DecidableEq, Repr

namespace Timeline

/-- The timeline before any run. -/
def empty : Timeline := {}

/-- The latest milestone that was passed. -/
def phase (timeline : Timeline) : Phase :=
  if timeline.done then .done
  else if timeline.post then .post
  else if timeline.pre then .pre
  else if timeline.start then .start
  else .idle

/-- Raise every milestone up to a given one.  No milestone is ever lowered. -/
def raise (timeline : Timeline) (phase : Phase) : Timeline where
  start := timeline.start || 1 ≤ phase.rank
  pre := timeline.pre || 2 ≤ phase.rank
  post := timeline.post || 3 ≤ phase.rank
  done := timeline.done || 4 ≤ phase.rank

/-- Raise what the latest milestone of another timeline calls for. -/
def merge (timeline other : Timeline) : Timeline :=
  timeline.raise other.phase

@[simp] theorem phase_empty : empty.phase = .idle := rfl

@[simp] theorem raise_idle (timeline : Timeline) : timeline.raise .idle = timeline := by
  simp [raise, Phase.rank]

end Timeline
end Progress
end SyncWatch
