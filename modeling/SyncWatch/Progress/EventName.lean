import SyncWatch.Text.Blank

/-!
# Event names

Names that differ in case, in surrounding white space or in the separators
`:`, `_`, space and `-` mean the same event.  The normal form of a name decides
what kind of event it is.
-/

namespace SyncWatch
namespace Progress

/-- The normal form of one character of a name. -/
def normalChar (char : Char) : Char :=
  if char == ':' || char == '_' || char == ' ' then '-' else char.toLower

/-- The normal form of an event name. -/
def normalName (name : String) : String :=
  String.ofList ((Text.trim name.toList).map normalChar)

/-- What an event means for the progress of a run. -/
inductive EventKind where
  /-- A new run, or a pair within a run, begins. -/
  | runStart
  /-- Snapshots and plans, before anything is written. -/
  | preSync
  /-- Writes to a destination begin. -/
  | applyStart
  /-- A part of the writes is done. -/
  | applyProgress
  /-- A batch of writes or a cascade is done. -/
  | applyDone
  /-- The run is done. -/
  | runDone
  /-- The progress of the run does not depend on the event. -/
  | other
  deriving DecidableEq, Repr

namespace EventKind

/-- The kind of event that a normal name stands for.  A message of the debugging
kind counts as a step before the writes when it mentions a snapshot. -/
def ofNormalName (name : String) (mentionsSnapshot : Bool) : EventKind :=
  if name ∈ ["run-start", "run-pair", "pair-start"] then .runStart
  else if name ∈ ["snapshot-start", "plan", "one-plan", "two-plan"] then .preSync
  else if name = "debug" ∧ mentionsSnapshot then .preSync
  else if name ∈ ["apply-start", "apply-add-start", "apply-remove-start", "apply-update-start",
      "cascade-pre"] then .applyStart
  else if name ∈ ["apply-add-progress", "apply-remove-progress", "apply-update-progress"] then
    .applyProgress
  else if name ∈ ["apply-add-done", "apply-remove-done", "apply-update-done",
      "cascade-summary"] then .applyDone
  else if name = "run-done" then .runDone
  else .other

end EventKind

/-- What the writes of an event do to a destination. -/
inductive Change where
  | additions
  | removals
  | updates
  deriving DecidableEq, Repr

namespace Change

/-- The word in the middle of a sentence. -/
def label : Change → String
  | .additions => "additions"
  | .removals => "removals"
  | .updates => "updates"

/-- The word at the beginning of a sentence. -/
def heading : Change → String
  | .additions => "Additions"
  | .removals => "Removals"
  | .updates => "Updates"

end Change

/-- The part of an apply event that its normal name tells. -/
inductive ApplyStage where
  | start
  | progress
  | done
  deriving DecidableEq, Repr

/-- The stage and the change of an apply event, by its normal name. -/
def applyEvent? (name : String) : Option (ApplyStage × Change) :=
  [("apply-start", .start, .additions),
    ("apply-add-start", .start, .additions),
    ("apply-remove-start", .start, .removals),
    ("apply-update-start", .start, .updates),
    ("apply-add-progress", .progress, .additions),
    ("apply-remove-progress", .progress, .removals),
    ("apply-update-progress", .progress, .updates),
    ("apply-add-done", .done, .additions),
    ("apply-remove-done", .done, .removals),
    ("apply-update-done", .done, .updates)].lookup name

end Progress
end SyncWatch
