import SyncWatch.Feed.Reception
import SyncWatch.Feed.Stream

/-!
# Two feeds, one log

Only one feed is open at a time: the log line by line while the details are
shown, and the summary of the run while they are hidden.  Each feed keeps its
own unfinished line.
-/

namespace SyncWatch
namespace Feed

open Progress Log

/-- The addresses of the two feeds. -/
structure FeedEndpoints where
  verbose : String
  summary : String
  deriving DecidableEq, Repr

/-- The address of a feed. -/
def FeedEndpoints.url (endpoints : FeedEndpoints) : FeedKind → String
  | .verbose => endpoints.verbose
  | .summary => endpoints.summary

/-- The two feeds and what they share. -/
structure Coordinator where
  verbose : Stream
  summary : Stream
  endpoints : FeedEndpoints
  verboseLines : LineAssembler := {}
  summaryLines : LineAssembler := {}
  debug : Bool := false
  detailsOpen : Bool := true
  /-- What tells the run that was last shown as finished from others. -/
  lastFinished : Option String := none
  deriving DecidableEq, Repr

namespace Coordinator

/-- Two closed feeds. -/
def new (endpoints : FeedEndpoints) (options : StreamOptions) : Coordinator where
  verbose := Stream.new .verbose options
  summary := Stream.new .summary options
  endpoints

/-- A feed. -/
def stream (coordinator : Coordinator) : FeedKind → Stream
  | .verbose => coordinator.verbose
  | .summary => coordinator.summary

/-- The unfinished line of a feed. -/
def lines (coordinator : Coordinator) : FeedKind → LineAssembler
  | .verbose => coordinator.verboseLines
  | .summary => coordinator.summaryLines

/-- Put a feed in place of the one there was. -/
def withStream (coordinator : Coordinator) (feed : FeedKind) (stream : Stream) : Coordinator :=
  match feed with
  | .verbose => { coordinator with verbose := stream }
  | .summary => { coordinator with summary := stream }

/-- Put an unfinished line in place of the one there was. -/
def withLines (coordinator : Coordinator) (feed : FeedKind) (lines : LineAssembler) :
    Coordinator :=
  match feed with
  | .verbose => { coordinator with verboseLines := lines }
  | .summary => { coordinator with summaryLines := lines }

@[simp] theorem stream_withLines
    (coordinator : Coordinator)
    (target feed : FeedKind)
    (lines : LineAssembler) :
    (coordinator.withLines target lines).stream feed = coordinator.stream feed := by
  cases target <;> cases feed <;> rfl

@[simp] theorem lines_withLines_self
    (coordinator : Coordinator)
    (feed : FeedKind)
    (lines : LineAssembler) :
    (coordinator.withLines feed lines).lines feed = lines := by
  cases feed <;> rfl

/-- Putting the unfinished line that is there already changes nothing. -/
theorem withLines_lines (coordinator : Coordinator) (feed : FeedKind) :
    coordinator.withLines feed (coordinator.lines feed) = coordinator := by
  cases feed <;> rfl

/-- The feed that belongs to a setting of the details. -/
def feedFor (detailsOpen : Bool) : FeedKind :=
  if detailsOpen then .verbose else .summary

/-- The feed that is open, if any. -/
def activeFeed (coordinator : Coordinator) : Option FeedKind :=
  if coordinator.verbose.isActive then some .verbose
  else if coordinator.summary.isActive then some .summary
  else none

/-- Close one feed and then open the one that the details call for. -/
def switchFeeds (coordinator : Coordinator) (now : Instant) : Coordinator :=
  let incoming := feedFor coordinator.detailsOpen
  let outgoing := incoming.other
  let closed :=
    (coordinator.withStream outgoing (coordinator.stream outgoing).close).withLines outgoing {}
  closed.withStream incoming
    ((closed.stream incoming).openAt (coordinator.endpoints.url incoming) now)

/-- Open the feed that the details call for. -/
def start (coordinator : Coordinator) (now : Instant) : Coordinator :=
  coordinator.switchFeeds now

/-- Show or hide the details; nothing happens when they are shown or hidden already. -/
def setDetails (coordinator : Coordinator) (detailsOpen : Bool) (now : Instant) : Coordinator :=
  if detailsOpen = coordinator.detailsOpen ∧ (coordinator.stream (feedFor detailsOpen)).isActive
  then coordinator
  else switchFeeds { coordinator with detailsOpen } now

/-- Show the details if they are hidden, and hide them if they are shown. -/
def toggleDetails (coordinator : Coordinator) (now : Instant) : Coordinator :=
  coordinator.setDetails (!coordinator.detailsOpen) now

/-- Show lines as they were sent, or in their readable form. -/
def setDebug (coordinator : Coordinator) (debug : Bool) : Coordinator :=
  { coordinator with debug }

/-- Change between the two forms of lines. -/
def toggleDebug (coordinator : Coordinator) : Coordinator :=
  coordinator.setDebug (!coordinator.debug)

/-- Connect every open feed again at once. -/
def forceReconnect (coordinator : Coordinator) (now : Instant) : Coordinator :=
  { coordinator with
    verbose := coordinator.verbose.forceReconnect now
    summary := coordinator.summary.forceReconnect now }

/-- Whether there is a feed to connect again. -/
def anyActive (coordinator : Coordinator) : Bool :=
  coordinator.verbose.isActive || coordinator.summary.isActive

/-- Whether the silence of a feed is stale. -/
def anyStale (coordinator : Coordinator) (now : Instant) (visible : Bool) : Bool :=
  coordinator.verbose.isStale now visible || coordinator.summary.isStale now visible

/-- Connect every feed again whose silence is stale. -/
def tick (coordinator : Coordinator) (now : Instant) (visible : Bool) : Coordinator :=
  { coordinator with
    verbose := coordinator.verbose.tick now visible
    summary := coordinator.summary.tick now visible }

/-- Close both feeds. -/
def closeAll (coordinator : Coordinator) : Coordinator :=
  { coordinator with
    verbose := coordinator.verbose.close
    summary := coordinator.summary.close
    verboseLines := {}
    summaryLines := {} }

/-- Take over a report of the worker of a feed. -/
def report (coordinator : Coordinator) (feed : FeedKind) (update : SessionUpdate) :
    Coordinator :=
  coordinator.withStream feed ((coordinator.stream feed).report update)

/-- Whether an event comes from the current connection of its feed. -/
def accepts (coordinator : Coordinator) (event : StreamEvent) : Bool :=
  (coordinator.stream event.feed).connectionId == some event.connection

/-- What a new connection does: the feed that writes alone sends its history again. -/
def receiveOpened (coordinator : Coordinator) (feed : FeedKind) : Coordinator × Reception :=
  let emptied := coordinator.withLines feed {}
  if (coordinator.stream feed.other).isActive then
    (emptied, { lastFinished := coordinator.lastFinished })
  else
    ({ emptied with lastFinished := none }, { actions := [.beginReplay] })

/-- What a message does, as one finished piece of text. -/
def receiveMessage (coordinator : Coordinator) (feed : FeedKind) (message : SseMessage) :
    Coordinator × Reception :=
  let chunk := message.data.toList ++ ['\n']
  let assembler := coordinator.lines feed
  let reception := Reception.ofTokens feed coordinator.debug message.event
    coordinator.lastFinished (assembler.tokens chunk)
  let advanced := coordinator.withLines feed (assembler.push chunk)
  ({ advanced with lastFinished := reception.lastFinished }, reception)

/-- What an event does.  An event of a connection that was replaced does nothing. -/
def receive (coordinator : Coordinator) (event : StreamEvent) : Coordinator × Reception :=
  if coordinator.accepts event then
    match event.kind with
    | .opened => coordinator.receiveOpened event.feed
    | .message message => coordinator.receiveMessage event.feed message
    | .error _ _ => (coordinator, { lastFinished := coordinator.lastFinished })
  else
    (coordinator, { lastFinished := coordinator.lastFinished })

/-- Handle an event: the coordinator and the log after it, and the payloads
that matter for progress. -/
def handle {σ : Type} (sink : Sink σ) (renderer : Renderer) (coordinator : Coordinator)
    (event : StreamEvent) (log : σ) : Coordinator × σ × List SummaryPayload :=
  let received := coordinator.receive event
  let actions := received.2.actions
  (received.1, LogAction.performAll sink renderer coordinator.debug actions log,
    received.2.payloads)

end Coordinator

/-- What can be asked of the two feeds. -/
inductive Command where
  | start (now : Instant)
  | setDetails (detailsOpen : Bool) (now : Instant)
  | toggleDetails (now : Instant)
  | setDebug (debug : Bool)
  | toggleDebug
  | forceReconnect (now : Instant)
  | tick (now : Instant) (visible : Bool)
  | visibility (visible : Bool) (now : Instant)
  | closeAll
  deriving DecidableEq, Repr

namespace Coordinator

/-- The feeds after a command.  A change of visibility checks the silence at once. -/
def perform (coordinator : Coordinator) : Command → Coordinator
  | .start now => coordinator.start now
  | .setDetails detailsOpen now => coordinator.setDetails detailsOpen now
  | .toggleDetails now => coordinator.toggleDetails now
  | .setDebug debug => coordinator.setDebug debug
  | .toggleDebug => coordinator.toggleDebug
  | .forceReconnect now => coordinator.forceReconnect now
  | .tick now visible => coordinator.tick now visible
  | .visibility visible now => coordinator.tick now visible
  | .closeAll => coordinator.closeAll

/-- What a command answers: the new setting of a toggle, and whether a feed
was connected again. -/
def answer (coordinator : Coordinator) : Command → Option Bool
  | .toggleDetails _ => some !coordinator.detailsOpen
  | .toggleDebug => some !coordinator.debug
  | .forceReconnect _ => some coordinator.anyActive
  | .tick now visible => some (coordinator.anyStale now visible)
  | .visibility visible now => some (coordinator.anyStale now visible)
  | _ => none

end Coordinator
end Feed
end SyncWatch
