import SyncWatch.Progress.EventText
import SyncWatch.Progress.Summary

/-!
# Payloads of the summary feed

A message of the summary feed is one JSON object.  It is an event when it names
one or when the message itself has a name, and a snapshot when it has a field
that only snapshots have.
-/

namespace SyncWatch
namespace Progress

/-- A decoded message of the summary feed. -/
inductive SummaryPayload where
  | event (event : SyncEvent)
  | snapshot (summary : RunSummary)

namespace SummaryPayload

/-- The name of a message that was sent without a name. -/
def unnamed : String := "message"

/-- Whether an object names an event. -/
def namesEvent (object : Json.Object) : Bool :=
  match object.get? SyncEvent.nameKey with
  | some (.string name) => !Text.isBlankText name
  | _ => false

/-- Turn a mismatch into an error of the payload. -/
def checked {α : Type} : Except Mismatch α → Except PayloadError α
  | .ok value => .ok value
  | .error mismatch => .error (.mismatch mismatch)

/-- The event or snapshot that an object stands for, in a message with a given name. -/
def ofObject (messageName : String) (object : Json.Object) :
    Except PayloadError SummaryPayload :=
  let name := Text.trimmed messageName
  if namesEvent object then
    checked ((SyncEvent.ofObject object).map .event)
  else if name ≠ "" ∧ name ≠ unnamed then
    checked ((SyncEvent.ofObject (object.insert SyncEvent.nameKey (.string name))).map .event)
  else if object.hasKey "timeline" ∨ object.hasKey "running" then
    checked ((RunSummary.ofObject object).map .snapshot)
  else
    .error .unrecognized

/-- Decode the text of a message with a given name. -/
def parse (messageName text : String) : Except PayloadError SummaryPayload :=
  match Json.parse (Text.trimmed text) with
  | .error error => .error (.malformed error)
  | .ok (.object object) => ofObject messageName object
  | .ok _ => .error .notAnObject

end SummaryPayload
end Progress
end SyncWatch
