import SyncWatch.Proofs.Feed.Consistency
import SyncWatch.Proofs.Feed.Messages

/-!
# No unfinished lines

A message ends its last line, and a feed that opens or closes drops its
unfinished line.  So between two steps of a run no feed has an unfinished line,
and an event of a current connection does what it says and no more.
-/

namespace SyncWatch
namespace Feed

open Log

namespace Coordinator

/-- No feed has an unfinished line. -/
structure LinesFinished (coordinator : Coordinator) : Prop where
  verbose : coordinator.verboseLines = {}
  summary : coordinator.summaryLines = {}

namespace LinesFinished

variable {coordinator : Coordinator}

theorem lines
    (finished : coordinator.LinesFinished)
    (feed : FeedKind) :
    coordinator.lines feed = {} := by
  cases feed with
  | verbose => exact finished.verbose
  | summary => exact finished.summary

theorem withStream
    (finished : coordinator.LinesFinished)
    (feed : FeedKind)
    (stream : Stream) :
    (coordinator.withStream feed stream).LinesFinished := by
  cases feed <;> exact ⟨finished.verbose, finished.summary⟩

theorem withLines
    (finished : coordinator.LinesFinished)
    (feed : FeedKind) :
    (coordinator.withLines feed {}).LinesFinished := by
  cases feed with
  | verbose => exact ⟨rfl, finished.summary⟩
  | summary => exact ⟨finished.verbose, rfl⟩

theorem switchFeeds
    (finished : coordinator.LinesFinished)
    (now : Instant) :
    (coordinator.switchFeeds now).LinesFinished :=
  ((finished.withStream _ _).withLines _).withStream _ _

theorem setDetails
    (finished : coordinator.LinesFinished)
    (detailsOpen : Bool)
    (now : Instant) :
    (coordinator.setDetails detailsOpen now).LinesFinished := by
  rw [Coordinator.setDetails]
  split
  · exact finished
  · have changed : LinesFinished { coordinator with detailsOpen } :=
      ⟨finished.verbose, finished.summary⟩
    exact changed.switchFeeds now

theorem perform
    (finished : coordinator.LinesFinished)
    (command : Command) :
    (coordinator.perform command).LinesFinished := by
  cases command with
  | start now => exact finished.switchFeeds now
  | setDetails detailsOpen now => exact finished.setDetails detailsOpen now
  | toggleDetails now => exact finished.setDetails _ now
  | closeAll => exact ⟨rfl, rfl⟩
  | _ => exact ⟨finished.verbose, finished.summary⟩

/-- Neither a new connection nor a message leaves an unfinished line. -/
theorem receive
    (finished : coordinator.LinesFinished)
    (event : StreamEvent) :
    (coordinator.receive event).1.LinesFinished := by
  have emptied := finished.withLines event.feed
  rw [Coordinator.receive]
  split
  · cases event.kind with
    | opened =>
        simp only [receiveOpened]
        split
        · exact emptied
        · exact ⟨emptied.verbose, emptied.summary⟩
    | message message =>
        simp only [receiveMessage, LineAssembler.push_append_newline]
        exact ⟨emptied.verbose, emptied.summary⟩
    | error message retryIn => exact finished
  · exact finished

theorem step
    (finished : coordinator.LinesFinished)
    (step : Step) :
    (coordinator.step step).LinesFinished := by
  cases step with
  | command command => exact finished.perform command
  | event event => exact finished.receive event
  | report feed update alive => exact finished.withStream feed _

/-- In every run no unfinished line is left after a step. -/
theorem run
    (finished : coordinator.LinesFinished)
    (steps : List Step) :
    (coordinator.run steps).LinesFinished := by
  induction steps generalizing coordinator with
  | nil => exact finished
  | cons step rest inductionHypothesis => exact inductionHypothesis (finished.step step)

theorem unstarted
    (endpoints : FeedEndpoints)
    (options : StreamOptions)
    (debug detailsOpen : Bool) :
    (Coordinator.unstarted endpoints options debug detailsOpen).LinesFinished :=
  ⟨rfl, rfl⟩

end LinesFinished

/-- A current connection that opens empties the log for a replay.  What it sends
is carried out token by token, and the end of an attempt does nothing. -/
theorem receive_of_accepted
    {coordinator : Coordinator}
    {event : StreamEvent}
    (consistent : coordinator.Consistent)
    (finished : coordinator.LinesFinished)
    (accepted : coordinator.accepts event = true) :
    coordinator.receive event =
      match event.kind with
      | .opened => ({ coordinator with lastFinished := none }, { actions := [.beginReplay] })
      | .message message =>
        let reception :=
          Reception.ofMessage event.feed coordinator.debug coordinator.lastFinished message
        ({ coordinator with lastFinished := reception.lastFinished }, reception)
      | .error _ _ => (coordinator, { lastFinished := coordinator.lastFinished }) := by
  obtain ⟨feed, connection, kind⟩ := event
  cases kind with
  | opened =>
      have alone := consistent.other_isActive (consistent.isActive_of_accepts accepted)
      have kept : coordinator.withLines feed {} = coordinator := by
        rw [← finished.lines feed, withLines_lines]
      rw [receive_opened rfl accepted alone, kept]
  | message message =>
      rw [accepts, beq_iff_eq] at accepted
      exact receive_message accepted (finished.lines feed) message
  | error message retryIn => simp [receive, accepted]

end Coordinator
end Feed
end SyncWatch
