import SyncWatch.Log.Markup
import SyncWatch.Log.Style
import SyncWatch.Progress.Payload

/-!
# How log lines are shown

A line that holds an event or a snapshot is shown as a sentence about it, and
any other line by its plain text.  In debugging mode every line is shown as it
was sent.
-/

namespace SyncWatch
namespace Log

open Progress

/-- How a line is shown, in debugging mode or not. -/
abbrev Renderer := Bool → String → StyledText

/-- Whether a text has the outer form of an object. -/
def looksLikeObject (text : String) : Bool :=
  Text.startsWith text "\x7b" && Text.endsWith text "\x7d"

/-- The style of an event. -/
def eventStyle (event : SyncEvent) : LineStyle :=
  match event.kind with
  | .runStart => .header
  | .preSync | .applyStart => .info
  | .applyProgress => .muted
  | .applyDone | .runDone => .success
  | .other => .muted

/-- The style of a snapshot, by the exit code of the run. -/
def snapshotStyle (summary : RunSummary) : LineStyle :=
  match summary.exitCode with
  | some code => if code = 0 then .success else .error
  | none => .info

/-- The sentence about a payload. -/
def describePayload : SummaryPayload → StyledText
  | .event event => ⟨event.describe, eventStyle event⟩
  | .snapshot summary => ⟨summary.describe, snapshotStyle summary⟩

/-- The payload that a plain text holds, when it looks like one. -/
def payloadOfText? (text : String) : Option SummaryPayload :=
  if looksLikeObject text then
    (SummaryPayload.parse SummaryPayload.unnamed text).toOption
  else
    none

/-- A line in its readable form. -/
def formatLine (line : String) : StyledText :=
  let plain := Markup.plainText line
  let content := Text.trimmed plain
  match payloadOfText? content with
  | some payload => describePayload payload
  | none => ⟨plain, classify content⟩

/-- Show every line as it was sent. -/
def plainRenderer : Renderer := fun debug text =>
  ⟨text, if debug then .raw else .plain⟩

/-- Show readable lines, and in debugging mode the lines as they were sent. -/
def styledRenderer : Renderer := fun debug text =>
  if debug then ⟨text, .raw⟩ else formatLine text

/-- The event that a line of the verbose feed holds. -/
def eventOfLine? (line : String) : Option SyncEvent :=
  let content := Text.trimmed (Markup.plainText line)
  if looksLikeObject content then
    match SyncEvent.parse content with
    | .ok event => if Text.isBlankText event.name then none else some event
    | .error _ => none
  else
    none

end Log
end SyncWatch
