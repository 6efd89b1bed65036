import SyncWatch.Dashboard.Basic
import SyncWatch.Proofs.Feed.Connections
import SyncWatch.Proofs.Feed.FinishedLines

/-!
# Events of replaced connections

Events wait in a queue, and a connection may be replaced before they are taken
in.  The events of the current connection of a feed are carried out, and all
others leave the feeds, the log and the dashboard exactly as they are.
-/

namespace SyncWatch

open Feed Log Progress

namespace Feed
namespace Coordinator

/-- An event that is not accepted changes neither the feeds nor the log, and
holds no payload. -/
theorem handle_of_rejected
    {σ : Type}
    {coordinator : Coordinator}
    {event : StreamEvent}
    (rejected : coordinator.accepts event = false)
    (sink : Sink σ)
    (renderer : Renderer)
    (log : σ) :
    coordinator.handle sink renderer event log = (coordinator, log, []) := by
  rw [handle, receive_of_rejected rejected]
  rfl

/-- What an accepted event does to the feeds and to the log, and the payloads
that it holds. -/
theorem handle_of_accepted
    {σ : Type}
    {coordinator : Coordinator}
    {event : StreamEvent}
    (consistent : coordinator.Consistent)
    (finished : coordinator.LinesFinished)
    (accepted : coordinator.accepts event = true)
    (sink : Sink σ)
    (renderer : Renderer)
    (log : σ) :
    coordinator.handle sink renderer event log =
      match event.kind with
      | .opened => ({ coordinator with lastFinished := none }, sink.beginReplay log, [])
      | .message message =>
        let reception :=
          Reception.ofMessage event.feed coordinator.debug coordinator.lastFinished message
        ({ coordinator with lastFinished := reception.lastFinished },
          LogAction.performAll sink renderer coordinator.debug reception.actions log,
          reception.payloads)
      | .error _ _ => (coordinator, log, []) := by
  rw [handle, receive_of_accepted consistent finished accepted]
  cases event.kind <;> rfl

end Coordinator
end Feed

namespace Dashboard

/-- An event that is not accepted leaves the dashboard as it is. -/
theorem receive_of_rejected
    {dashboard : Dashboard}
    {event : StreamEvent}
    (rejected : dashboard.coordinator.accepts event = false)
    (clock : ClockTime) :
    dashboard.receive event clock = dashboard := by
  simp only [receive, rejected, Bool.false_eq_true, if_false]
  rw [Coordinator.handle_of_rejected rejected]
  rfl

end Dashboard

namespace Feed
namespace Coordinator

open ConnectionChange

/-- In every run with fewer connections of a feed than numbers for them, no two
connections of the feed share a number, and an event of the feed is accepted
exactly when its connection was the last one to be started and the feed was not
closed since.  An accepted opening empties the log for a replay, the tokens of an
accepted message are carried out in their order, and the end of an attempt does
nothing.  An event that is not accepted changes nothing at all. -/
theorem accepts_iff_last_connection
    (endpoints : FeedEndpoints)
    (options : StreamOptions)
    (debug detailsOpen : Bool)
    (steps : List Step)
    (feed : FeedKind)
    (few : (numbers ((unstarted endpoints options debug detailsOpen).history feed
      steps)).length < Word.size 64) :
    let coordinator := (unstarted endpoints options debug detailsOpen).run steps
    let past := (unstarted endpoints options debug detailsOpen).history feed steps
    (numbers past).Nodup ∧
      ∀ event : StreamEvent, event.feed = feed →
        (coordinator.accepts event = true ↔
          past.getLast? = some (.started event.connection)) ∧
        (coordinator.accepts event = true →
          ∀ (σ : Type) (sink : Sink σ) (renderer : Renderer) (log : σ),
            coordinator.handle sink renderer event log =
              match event.kind with
              | .opened => ({ coordinator with lastFinished := none }, sink.beginReplay log, [])
              | .message message =>
                let reception :=
                  Reception.ofMessage event.feed coordinator.debug coordinator.lastFinished message
                ({ coordinator with lastFinished := reception.lastFinished },
                  LogAction.performAll sink renderer coordinator.debug reception.actions log,
                  reception.payloads)
              | .error _ _ => (coordinator, log, [])) ∧
        (coordinator.accepts event = false →
          (∀ (σ : Type) (sink : Sink σ) (renderer : Renderer) (log : σ),
            coordinator.handle sink renderer event log = (coordinator, log, [])) ∧
          ∀ (dashboard : Dashboard) (clock : ClockTime),
            dashboard.coordinator = coordinator →
              dashboard.receive event clock = dashboard) := by
  intro coordinator past
  have tracks : (coordinator.stream feed).Tracks past :=
    tracks_history endpoints options debug detailsOpen feed steps
  have consistent : coordinator.Consistent :=
    (Consistent.unstarted endpoints options debug detailsOpen).run steps
  have finished : coordinator.LinesFinished :=
    (LinesFinished.unstarted endpoints options debug detailsOpen).run steps
  refine ⟨tracks.nodup few, ?_⟩
  intro event ofFeed
  refine ⟨?_, ?_, ?_⟩
  · rw [accepts, beq_iff_eq, ofFeed, tracks.current]
    exact current?_eq_some_iff past event.connection
  · intro accepted σ sink renderer log
    exact handle_of_accepted consistent finished accepted sink renderer log
  · intro rejected
    refine ⟨fun σ sink renderer log => handle_of_rejected rejected sink renderer log, ?_⟩
    intro dashboard clock same
    apply Dashboard.receive_of_rejected
    rw [same]
    exact rejected

/-- After a new connection was forced, a line of the first connection comes too
late and one of the second is shown. -/
theorem accepts_after_forced_connection :
    let fresh := ({} : Settings).coordinator
    let steps : List Step := [.command (.start 0), .command (.forceReconnect 1)]
    let late : StreamEvent := ⟨.verbose, 1, .message ⟨"message", "late"⟩⟩
    let timely : StreamEvent := ⟨.verbose, 2, .message ⟨"message", "timely"⟩⟩
    let coordinator := fresh.run steps
    (numbers (fresh.history .verbose steps)).length < Word.size 64 ∧
      coordinator.accepts late = false ∧
      coordinator.handle Transcript.sink plainRenderer late {} = (coordinator, {}, []) ∧
      coordinator.accepts timely = true ∧
      (coordinator.handle Transcript.sink plainRenderer timely {}).2.1 =
        { lines := [⟨"timely", .plain⟩] } := by
  intro fresh steps late timely coordinator
  have past : fresh.history .verbose steps = [.started 1, .started 2] := rfl
  have few : (numbers (fresh.history .verbose steps)).length < Word.size 64 := by
    rw [past]
    decide
  have settled := accepts_iff_last_connection ({} : Settings).endpoints
    ({} : Settings).streamOptions false true steps .verbose few
  obtain ⟨lateLast, -, lateChanges⟩ := settled.2 late rfl
  obtain ⟨timelyLast, timelyShown, -⟩ := settled.2 timely rfl
  have rejected : coordinator.accepts late = false := by
    rw [Bool.eq_false_iff]
    intro accepted
    have last := lateLast.mp accepted
    change (fresh.history .verbose steps).getLast? = _ at last
    rw [past] at last
    exact absurd last (by decide)
  have accepted : coordinator.accepts timely = true := by
    apply timelyLast.mpr
    change (fresh.history .verbose steps).getLast? = _
    rw [past]
    rfl
  have shown := congrArg (fun after => after.2.1)
    (timelyShown accepted Transcript Transcript.sink plainRenderer {})
  have line : LogAction.performAll Transcript.sink plainRenderer false
      (Reception.ofMessage .verbose false none ⟨"message", "timely"⟩).actions {} =
        { lines := [⟨"timely", .plain⟩] } := by decide +kernel
  exact ⟨few, rejected, (lateChanges rejected).1 _ _ _ _, accepted, shown.trans line⟩

end Coordinator
end Feed
end SyncWatch
