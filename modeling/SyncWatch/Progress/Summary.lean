import SyncWatch.Json.Decode
import SyncWatch.Progress.Timeline

/-!
# Snapshots of a whole run

The summary feed also sends what is known about the whole run.  Every field of
such a snapshot may be absent.
-/

namespace SyncWatch
namespace Progress

/-- What is known about a run. -/
structure RunSummary where
  running : Option Bool := none
  exitCode : Option Int := none
  result : Option String := none
  /-- How long the run took, in seconds. -/
  duration : Option Float := none
  startedAt : Option String := none
  finishedAt : Option String := none
  timeline : Timeline := {}

namespace RunSummary

/-- Whether the run is over and its outcome is known. -/
def isFinished (summary : RunSummary) : Bool :=
  summary.running == some false && summary.exitCode.isSome

/-- What tells one finished run from another. -/
def finishKey (summary : RunSummary) : String :=
  summary.finishedAt.getD ""

/-- The line that shows a finished run. -/
def describe (summary : RunSummary) : String :=
  let code := (summary.exitCode.map toString).getD "?"
  let result :=
    match summary.result with
    | some result => if result.isEmpty then "" else " " ++ result
    | none => ""
  let duration :=
    match summary.duration with
    | some seconds => " in " ++ Decimal.fixedText seconds 1 ++ "s"
    | none => ""
  "Run finished" ++ result ++ " (exit " ++ code ++ ")" ++ duration

/-- The value of an absent or present field. -/
def orNull {α : Type} (encode : α → Json.Value) : Option α → Json.Value
  | some value => encode value
  | none => .null

/-- The object that stands for a timeline. -/
def timelineValue (timeline : Timeline) : Json.Value :=
  .object [("start", .bool timeline.start), ("pre", .bool timeline.pre),
    ("post", .bool timeline.post), ("done", .bool timeline.done)]

/-- The members of the object that stands for a snapshot; all of them are written. -/
def members (summary : RunSummary) : List (String × Json.Value) :=
  [("running", orNull .bool summary.running),
    ("exit_code", orNull (fun code => .number (.integer code)) summary.exitCode),
    ("result", orNull .string summary.result),
    ("duration_sec", orNull (fun seconds => .number (.float seconds)) summary.duration),
    ("started_at", orNull .string summary.startedAt),
    ("finished_at", orNull .string summary.finishedAt),
    ("timeline", timelineValue summary.timeline)]

/-- The JSON text of a snapshot. -/
def text (summary : RunSummary) : String :=
  (Json.Value.object summary.members).text

/-- How a timeline is called in messages. -/
def timelineName : String := "struct TimelinePhase"

/-- A flag of a timeline that may be absent. -/
def timelineFlag (object : Json.Object) (key : String) : Except Mismatch Bool :=
  Json.withDefault false Json.Value.asFlag (object.get? key)

/-- Read a timeline from the members of an object, in the order of their keys. -/
def timelineOfObject (object : Json.Object) : Except Mismatch Timeline := do
  let done ← timelineFlag object "done"
  let post ← timelineFlag object "post"
  let pre ← timelineFlag object "pre"
  let start ← timelineFlag object "start"
  return { start, pre, post, done }

/-- Read a timeline from its flags in their order; later ones may be left out. -/
def timelineOfItems (items : List Json.Value) : Except Mismatch Timeline := do
  let start ← Json.withDefault false Json.Value.asFlag items[0]?
  let pre ← Json.withDefault false Json.Value.asFlag items[1]?
  let post ← Json.withDefault false Json.Value.asFlag items[2]?
  let done ← Json.withDefault false Json.Value.asFlag items[3]?
  if 4 < items.length then
    .error (.invalidLength items.length "fewer elements in array")
  else
    return { start, pre, post, done }

/-- Read a timeline from an object or from an array of flags. -/
def timelineOfValue : Json.Value → Except Mismatch Timeline
  | .object object => timelineOfObject object
  | .array items => timelineOfItems items
  | value => .error (.invalidType value.found timelineName)

/-- Read a snapshot from the members of an object, in the order of their keys. -/
def ofObject (object : Json.Object) : Except Mismatch RunSummary := do
  let duration ← Json.optional Json.Value.asNumber (object.get? "duration_sec")
  let exitCode ← Json.optional Json.Value.asInt32 (object.get? "exit_code")
  let finishedAt ← Json.optional Json.Value.asText (object.get? "finished_at")
  let result ← Json.optional Json.Value.asText (object.get? "result")
  let running ← Json.optional Json.Value.asFlag (object.get? "running")
  let startedAt ← Json.optional Json.Value.asText (object.get? "started_at")
  let timeline ← Json.withDefault {} timelineOfValue (object.get? "timeline")
  return { running, exitCode, result, duration, startedAt, finishedAt, timeline }

end RunSummary
end Progress
end SyncWatch
