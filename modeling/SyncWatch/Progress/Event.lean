import SyncWatch.Json.Decode
import SyncWatch.Json.Reader
import SyncWatch.Progress.EventName
import SyncWatch.Text.LetterCase
import SyncWatch.Text.Search

/-!
# Events of a synchronization run

An event has a name, three fields that matter for progress and messages, and
any number of further fields, which are kept for display.
-/

namespace SyncWatch
namespace Progress

/-- One event of a run. -/
structure SyncEvent where
  /-- The name as it was sent. -/
  name : String
  /-- How much of a part is done. -/
  done : Option Float := none
  /-- How much there is to do in that part. -/
  total : Option Float := none
  /-- A free message. -/
  message : Option String := none
  /-- All other fields. -/
  extra : Json.Object := []

namespace SyncEvent

/-- The key of the name. -/
def nameKey : String := "event"

/-- The keys with a meaning of their own. -/
def knownKeys : List String := [nameKey, "done", "total", "msg"]

/-- Whether the message speaks of a snapshot, in any ASCII case. -/
def mentionsSnapshot (event : SyncEvent) : Bool :=
  match event.message with
  | some message => Text.contains (Text.lowerAscii message) "snapshot"
  | none => false

/-- What the event means for progress. -/
def kind (event : SyncEvent) : EventKind :=
  EventKind.ofNormalName (normalName event.name) event.mentionsSnapshot

/-- The share that is done, between zero and one, when both numbers are usable. -/
def fraction (event : SyncEvent) : Option Float :=
  match event.done, event.total with
  | some done, some total =>
    if !done.isFinite || !total.isFinite || total ≤ 0 then
      none
    else
      let share := done / total
      some (if share < 0 then 0 else if 1 < share then 1 else share)
  | _, _ => none

/-- The value of a further field as text: a string that is not empty, a number
or a boolean. -/
def field (event : SyncEvent) (key : String) : Option String :=
  match event.extra.get? key with
  | some (.string text) => if text.isEmpty then none else some text
  | some (.number number) => some number.text
  | some (.bool flag) => some (toString flag)
  | _ => none

/-- The first of several fields that has a text, or a default. -/
def fieldOr (event : SyncEvent) (keys : List String) (default : String) : String :=
  (keys.findSome? event.field).getD default

/-- A field between two texts, or nothing when it has no text. -/
def fieldBetween (event : SyncEvent) (before key after : String) : String :=
  match event.field key with
  | some text => before ++ text ++ after
  | none => ""

/-- The count inside the result of a batch. -/
def resultCount (event : SyncEvent) : Option String :=
  match event.extra.get? "result" with
  | some (.object result) =>
    ((Json.Object.get? result "count").or (Json.Object.get? result "confirmed")).map
      Json.Value.text
  | _ => none

/-- The whole part of a number of items; what is not a count becomes the
nearest one. -/
def wholeText (number : Option Float) : String :=
  match number with
  | some value => toString value.floor.toUInt64.toNat
  | none => "0"

/-- The line that shows an apply event. -/
def describeApply (event : SyncEvent) (stage : ApplyStage) (change : Change) : String :=
  let target := event.fieldOr ["dst"] "destination" ++ event.fieldBetween " [" "feature" "]"
  match stage with
  | .start => "Applying " ++ change.label ++ " to " ++ target
  | .progress =>
    change.heading ++ " " ++ target ++ ": " ++ wholeText event.done ++ "/" ++
      wholeText event.total
  | .done =>
    let count := ((event.field "count").or event.resultCount).getD "0"
    change.heading ++ " on " ++ target ++ " done: " ++ count

/-- The line that shows the beginning of a pair. -/
def describePair (event : SyncEvent) : String :=
  let position :=
    match event.field "i", event.field "n" with
    | some index, some count => " " ++ index ++ "/" ++ count
    | _, _ => ""
  "Pair" ++ position ++ ": " ++ event.fieldOr ["src"] "?" ++ " → " ++ event.fieldOr ["dst"] "?" ++
    event.fieldBetween " (" "mode" ")"

/-- The line that shows an event without a form of its own. -/
def describeOther (event : SyncEvent) : String :=
  match event.message with
  | some message => if message.isEmpty then event.name else event.name ++ ": " ++ message
  | none => event.name

/-- The line that shows an event. -/
def describe (event : SyncEvent) : String :=
  let name := normalName event.name
  let feature := event.fieldBetween " [" "feature" "]"
  if name = "run-start" then
    "▶ Sync run started"
  else if name = "run-pair" then
    event.describePair
  else if name = "snapshot-start" then
    "Snapshot " ++ event.fieldOr ["src", "a"] "?" ++ " ↔ " ++ event.fieldOr ["dst", "b"] "?" ++
      feature
  else if name ∈ ["plan", "one-plan", "two-plan"] then
    "Plan" ++ feature ++ ": +" ++ event.fieldOr ["add", "adds"] "0" ++ " / -" ++
      event.fieldOr ["rem", "removes"] "0"
  else if name = "cascade-pre" then
    "Running end-of-run tombstone cascade"
  else if name = "cascade-summary" then
    "Cascade removed " ++ event.fieldOr ["removed"] "0"
  else if name = "run-done" then
    "✔ Sync run finished: +" ++ event.fieldOr ["added"] "0" ++ " / -" ++
      event.fieldOr ["removed"] "0"
  else
    match applyEvent? name with
    | some (stage, change) => event.describeApply stage change
    | none => event.describeOther

/-- The value of a number in an object. -/
def numberValue (number : Float) : Json.Value :=
  .number (.float number)

/-- The members of the object that stands for an event: the name, the fields
that are present and the further fields. -/
def members (event : SyncEvent) : List (String × Json.Value) :=
  [(nameKey, .string event.name)] ++
    (event.done.map fun done => ("done", numberValue done)).toList ++
    (event.total.map fun total => ("total", numberValue total)).toList ++
    (event.message.map fun message => ("msg", Json.Value.string message)).toList ++
    event.extra

/-- The JSON text of an event. -/
def text (event : SyncEvent) : String :=
  (Json.Value.object event.members).text

/-- Read an event from the members of an object, in the order of their keys. -/
def ofObject (object : Json.Object) : Except Mismatch SyncEvent := do
  let done ← Json.optional Json.Value.asNumber (object.get? "done")
  let name? ← (object.get? nameKey).mapM Json.Value.asText
  let message ← Json.optional Json.Value.asText (object.get? "msg")
  let total ← Json.optional Json.Value.asNumber (object.get? "total")
  match name? with
  | some name => return { name, done, total, message, extra := object.without knownKeys }
  | none => .error (.missingField nameKey)

end SyncEvent
end Progress
end SyncWatch
