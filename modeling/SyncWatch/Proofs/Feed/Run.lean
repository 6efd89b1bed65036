import SyncWatch.Feed.Coordinator

/-!
# Runs of the two feeds

A run is a list of steps: commands, events that are handled and reports of the
workers, in any order.  A step asks one thing of each feed, so what holds of a
feed in every run is proved over the few moves of a single stream.
-/

namespace SyncWatch
namespace Feed

open Progress Log

/-- What can be asked of one feed. -/
inductive Move where
  /-- Nothing. -/
  | stay
  | openAt (url : String) (now : Instant)
  | close
  /-- Connect an open feed again at once. -/
  | reconnect (now : Instant)
  /-- Connect again if the silence is stale. -/
  | check (now : Instant) (visible : Bool)
  /-- Take over a report of the worker, which never closes its session. -/
  | report (update : SessionUpdate) (alive : update ≠ .close)

namespace Stream

/-- The feed after a move. -/
def move (stream : Stream) : Move → Stream
  | .stay => stream
  | .openAt url now => stream.openAt url now
  | .close => stream.close
  | .reconnect now => stream.forceReconnect now
  | .check now visible => stream.tick now visible
  | .report update _ => stream.report update

/-- Only opening and closing change whether a feed is open. -/
theorem isActive_move (stream : Stream) (move : Move) :
    (stream.move move).isActive =
      match move with
      | .openAt _ _ => true
      | .close => false
      | _ => stream.isActive := by
  cases move <;> simp [Stream.move]

end Stream

/-- One thing that happens to the two feeds. -/
inductive Step where
  | command (command : Command)
  /-- An event is handled. -/
  | event (event : StreamEvent)
  /-- The worker of a feed reports to its session, which it never closes. -/
  | report (feed : FeedKind) (update : SessionUpdate) (alive : update ≠ .close)

namespace Coordinator

/-- Two closed feeds before anything has happened to them. -/
def unstarted
    (endpoints : FeedEndpoints)
    (options : StreamOptions)
    (debug detailsOpen : Bool) : Coordinator :=
  { new endpoints options with debug, detailsOpen }

/-- The feeds after a step. -/
def step (coordinator : Coordinator) : Step → Coordinator
  | .command command => coordinator.perform command
  | .event event => (coordinator.receive event).1
  | .report feed update _ => coordinator.report feed update

/-- The feeds after some steps. -/
def run (coordinator : Coordinator) (steps : List Step) : Coordinator :=
  steps.foldl step coordinator

@[simp] theorem run_nil (coordinator : Coordinator) : coordinator.run [] = coordinator := rfl

@[simp] theorem run_cons
    (coordinator : Coordinator)
    (first : Step)
    (rest : List Step) :
    coordinator.run (first :: rest) = (coordinator.step first).run rest := rfl

/-- What a change to a setting of the details asks of a feed. -/
def switchMove
    (coordinator : Coordinator)
    (detailsOpen : Bool)
    (feed : FeedKind)
    (now : Instant) : Move :=
  if feed = feedFor detailsOpen then .openAt (coordinator.endpoints.url feed) now else .close

/-- What a command asks of a feed. -/
def commandMove (coordinator : Coordinator) (feed : FeedKind) : Command → Move
  | .start now => coordinator.switchMove coordinator.detailsOpen feed now
  | .setDetails detailsOpen now =>
    if detailsOpen = coordinator.detailsOpen ∧ (coordinator.stream (feedFor detailsOpen)).isActive
    then .stay
    else coordinator.switchMove detailsOpen feed now
  | .toggleDetails now => coordinator.switchMove (!coordinator.detailsOpen) feed now
  | .setDebug _ | .toggleDebug => .stay
  | .forceReconnect now => .reconnect now
  | .tick now visible | .visibility visible now => .check now visible
  | .closeAll => .close

/-- What a step asks of a feed. -/
def moveOf (coordinator : Coordinator) (feed : FeedKind) : Step → Move
  | .command command => coordinator.commandMove feed command
  | .event _ => .stay
  | .report target update alive => if target = feed then .report update alive else .stay

/-- A switch opens the feed that the details call for and closes the other. -/
theorem stream_switchFeeds
    (coordinator : Coordinator)
    (feed : FeedKind)
    (now : Instant) :
    (coordinator.switchFeeds now).stream feed =
      (coordinator.stream feed).move
        (coordinator.switchMove coordinator.detailsOpen feed now) := by
  cases details : coordinator.detailsOpen <;> cases feed <;>
    simp [switchFeeds, switchMove, feedFor, details, Stream.move, FeedKind.other,
      withStream, withLines, stream]

/-- The details decide over a switch through nothing but their setting. -/
theorem stream_switchFeeds_details
    (coordinator : Coordinator)
    (detailsOpen : Bool)
    (feed : FeedKind)
    (now : Instant) :
    (switchFeeds { coordinator with detailsOpen } now).stream feed =
      (coordinator.stream feed).move (coordinator.switchMove detailsOpen feed now) := by
  rw [stream_switchFeeds]
  cases feed <;> rfl

theorem stream_setDetails
    (coordinator : Coordinator)
    (detailsOpen : Bool)
    (feed : FeedKind)
    (now : Instant) :
    (coordinator.setDetails detailsOpen now).stream feed =
      (coordinator.stream feed).move
        (coordinator.commandMove feed (.setDetails detailsOpen now)) := by
  rw [setDetails, commandMove]
  split
  · rfl
  · exact coordinator.stream_switchFeeds_details detailsOpen feed now

/-- A toggle always switches, since the new setting differs from the old one. -/
theorem stream_toggleDetails
    (coordinator : Coordinator)
    (feed : FeedKind)
    (now : Instant) :
    (coordinator.toggleDetails now).stream feed =
      (coordinator.stream feed).move
        (coordinator.switchMove (!coordinator.detailsOpen) feed now) := by
  have different : (!coordinator.detailsOpen) ≠ coordinator.detailsOpen := by simp
  rw [toggleDetails, setDetails, if_neg fun same => different same.1]
  exact coordinator.stream_switchFeeds_details _ feed now

/-- A command does to each feed what it asks of it. -/
theorem stream_perform
    (coordinator : Coordinator)
    (feed : FeedKind)
    (command : Command) :
    (coordinator.perform command).stream feed =
      (coordinator.stream feed).move (coordinator.commandMove feed command) := by
  cases command with
  | start now => exact coordinator.stream_switchFeeds feed now
  | setDetails detailsOpen now => exact coordinator.stream_setDetails detailsOpen feed now
  | toggleDetails now => exact coordinator.stream_toggleDetails feed now
  | setDebug debug => cases feed <;> rfl
  | toggleDebug => cases feed <;> rfl
  | forceReconnect now => cases feed <;> rfl
  | tick now visible => cases feed <;> rfl
  | visibility visible now => cases feed <;> rfl
  | closeAll => cases feed <;> rfl

/-- An event that is not accepted does nothing to the feeds. -/
theorem receive_of_rejected
    {coordinator : Coordinator}
    {event : StreamEvent}
    (rejected : coordinator.accepts event = false) :
    coordinator.receive event = (coordinator, { lastFinished := coordinator.lastFinished }) := by
  simp [receive, rejected]

/-- Handling an event changes nothing but the unfinished line of its feed and
the memory of the run that was last shown as finished. -/
theorem receive_fst_eq (coordinator : Coordinator) (event : StreamEvent) :
    ∃ lines lastFinished,
      (coordinator.receive event).1 =
        { coordinator.withLines event.feed lines with lastFinished } := by
  have unchanged : coordinator =
      { coordinator.withLines event.feed (coordinator.lines event.feed) with
        lastFinished := coordinator.lastFinished } := by
    rw [withLines_lines]
  by_cases accepted : coordinator.accepts event = true
  · cases kind : event.kind with
    | opened =>
        by_cases shared : (coordinator.stream event.feed.other).isActive = true
        · refine ⟨{}, coordinator.lastFinished, ?_⟩
          simp only [receive, receiveOpened, accepted, kind, shared, if_true]
          cases event.feed <;> rfl
        · refine ⟨{}, none, ?_⟩
          simp [receive, receiveOpened, accepted, kind, shared]
    | message message =>
        refine ⟨(coordinator.lines event.feed).push (message.data.toList ++ ['\n']), ?_⟩
        refine ⟨(coordinator.receiveMessage event.feed message).2.lastFinished, ?_⟩
        simp [receive, receiveMessage, accepted, kind]
    | error message retryIn =>
        refine ⟨coordinator.lines event.feed, coordinator.lastFinished, ?_⟩
        rw [← unchanged]
        simp [receive, kind]
  · refine ⟨coordinator.lines event.feed, coordinator.lastFinished, ?_⟩
    rw [← unchanged, receive_of_rejected (Bool.eq_false_iff.mpr accepted)]

/-- Handling an event leaves both streams as they are. -/
@[simp] theorem stream_receive
    (coordinator : Coordinator)
    (event : StreamEvent)
    (feed : FeedKind) :
    (coordinator.receive event).1.stream feed = coordinator.stream feed := by
  obtain ⟨lines, lastFinished, same⟩ := coordinator.receive_fst_eq event
  rw [same]
  cases event.feed <;> cases feed <;> rfl

@[simp] theorem endpoints_receive (coordinator : Coordinator) (event : StreamEvent) :
    (coordinator.receive event).1.endpoints = coordinator.endpoints := by
  obtain ⟨lines, lastFinished, same⟩ := coordinator.receive_fst_eq event
  rw [same]
  cases event.feed <;> rfl

@[simp] theorem detailsOpen_receive (coordinator : Coordinator) (event : StreamEvent) :
    (coordinator.receive event).1.detailsOpen = coordinator.detailsOpen := by
  obtain ⟨lines, lastFinished, same⟩ := coordinator.receive_fst_eq event
  rw [same]
  cases event.feed <;> rfl

@[simp] theorem debug_receive (coordinator : Coordinator) (event : StreamEvent) :
    (coordinator.receive event).1.debug = coordinator.debug := by
  obtain ⟨lines, lastFinished, same⟩ := coordinator.receive_fst_eq event
  rw [same]
  cases event.feed <;> rfl

/-- A step does to each feed what it asks of it. -/
theorem stream_step
    (coordinator : Coordinator)
    (feed : FeedKind)
    (step : Step) :
    (coordinator.step step).stream feed =
      (coordinator.stream feed).move (coordinator.moveOf feed step) := by
  cases step with
  | command command => exact coordinator.stream_perform feed command
  | event event => exact coordinator.stream_receive event feed
  | report target update alive =>
      cases target <;> cases feed <;> rfl

end Coordinator
end Feed
end SyncWatch
