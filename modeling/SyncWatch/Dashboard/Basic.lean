import SyncWatch.Progress.Machine
import SyncWatch.Screen.Input
import SyncWatch.Settings.Feeds

/-!
# The dashboard

The two feeds, the progress of the run and the log, and how they change with
what comes from the server, from the reader and from the clock.
-/

namespace SyncWatch

open Feed Log Progress Screen

/-- Everything that is shown. -/
structure Dashboard where
  settings : Settings
  coordinator : Coordinator
  monitor : ProgressMonitor := {}
  log : LogSurface
  /-- Whether the terminal is looked at. -/
  visible : Bool := true
  shouldQuit : Bool := false
  /-- The message at the end of the last row. -/
  status : Option String := none
  /-- When the last message came. -/
  lastMessageAt : Option ClockTime := none

namespace Dashboard

/-- A dashboard with closed feeds and an empty log. -/
def new (settings : Settings) : Dashboard where
  settings
  coordinator := settings.coordinator
  log := LogSurface.new settings.display.bufferCapacity settings.display.scrollTolerance

/-- The progress that is shown. -/
def progress (dashboard : Dashboard) : ProgressState :=
  dashboard.monitor.view.state

/-- Take a payload into the progress of the run. -/
def applyPayload (dashboard : Dashboard) (payload : SummaryPayload) : Dashboard :=
  { dashboard with monitor := dashboard.monitor.apply payload }

/-- What the reader is told about a failed connection. -/
def failureStatus (feed : FeedKind) (message : String) (retryIn : Duration) : String :=
  feed.label ++ " feed: " ++ message ++ "; reconnecting in " ++
    toString retryIn.ceilingSeconds ++ "s"

/-- Note an event of a current connection in what the reader is told. -/
def noted (dashboard : Dashboard) (event : StreamEvent) (clock : ClockTime) : Dashboard :=
  match event.kind with
  | .opened => { dashboard with status := none }
  | .error message retryIn =>
    { dashboard with status := some (failureStatus event.feed message retryIn) }
  | .message _ => { dashboard with lastMessageAt := some clock }

/-- Take in an event of a feed at a time of day. -/
def receive (dashboard : Dashboard) (event : StreamEvent) (clock : ClockTime) : Dashboard :=
  let told :=
    if dashboard.coordinator.accepts event then dashboard.noted event clock else dashboard
  let handled :=
    dashboard.coordinator.handle (LogSurface.sink clock) styledRenderer event dashboard.log
  handled.2.2.foldl applyPayload { told with coordinator := handled.1, log := handled.2.1 }

/-- The dashboard after a command to its feeds. -/
def command (dashboard : Dashboard) (command : Command) : Dashboard :=
  { dashboard with coordinator := dashboard.coordinator.perform command }

/-- Tell the reader something. -/
def tell (dashboard : Dashboard) (status : String) : Dashboard :=
  { dashboard with status := some status }

/-- Change the log. -/
def changeLog (dashboard : Dashboard) (change : LogSurface → LogSurface) : Dashboard :=
  { dashboard with log := change dashboard.log }

/-- What the reader is told about the details. -/
def detailsStatus (detailsOpen : Bool) : String :=
  if detailsOpen then "Details: streaming the verbose log"
  else "Details hidden: streaming the run summary"

/-- What the reader is told about the form of lines. -/
def debugStatus (debug : Bool) : String :=
  "Debug " ++ (if debug then "on" else "off") ++ ": applies to new lines"

/-- Do what the reader asks for. -/
def act (dashboard : Dashboard) (action : Action) (now : Instant) : Dashboard :=
  match action with
  | .quit | .forceQuit => { dashboard with shouldQuit := true }
  | .toggleDetails =>
    (dashboard.command (.toggleDetails now)).tell
      (detailsStatus !dashboard.coordinator.detailsOpen)
  | .toggleDebug =>
    (dashboard.command .toggleDebug).tell (debugStatus !dashboard.coordinator.debug)
  | .scrollUp => dashboard.changeLog (·.scrollBy (-1))
  | .scrollDown => dashboard.changeLog (·.scrollBy 1)
  | .pageUp => dashboard.changeLog (·.page (-1))
  | .pageDown => dashboard.changeLog (·.page 1)
  | .goToTop => dashboard.changeLog (·.scrollToTop)
  | .goToBottom => dashboard.changeLog (·.scrubTo 100)
  | .scrub percent => dashboard.changeLog (·.scrubTo percent)
  | .reconnect =>
    let reconnected := dashboard.command (.forceReconnect now)
    if dashboard.coordinator.anyActive then reconnected.tell "Reconnecting..." else reconnected
  | .clear => dashboard.changeLog (·.clear)
  | .focusChanged focused =>
    { dashboard with visible := focused }.command (.visibility focused now)
  | .resize | .nothing => dashboard

/-- Open the feed that the details call for. -/
def start (dashboard : Dashboard) (now : Instant) : Dashboard :=
  dashboard.command (.start now)

/-- Connect a feed again whose silence is stale. -/
def checkSilence (dashboard : Dashboard) (now : Instant) : Dashboard :=
  let checked := dashboard.command (.tick now dashboard.visible)
  if dashboard.coordinator.anyStale now dashboard.visible then
    checked.tell "Stream went quiet; reconnected"
  else
    checked

/-- Take over a report of the worker of a feed. -/
def report (dashboard : Dashboard) (feed : FeedKind) (update : SessionUpdate) : Dashboard :=
  { dashboard with coordinator := dashboard.coordinator.report feed update }

end Dashboard
end SyncWatch
