import SyncWatch.Proofs.Dashboard.Run
import SyncWatch.Proofs.Feed.Messages
import SyncWatch.Proofs.Log.Contents
import SyncWatch.Proofs.Progress.Replay

/-!
# Histories that are sent again

A new connection empties the log and the server sends its history again.  What
the log shows and which run it shows as finished depends on nothing but the
messages since then, and the progress has taken in what comes again already.
So a history that is sent again leads to the same log and the same progress.
-/

namespace SyncWatch

open Feed Log Progress

namespace Dashboard

/-- The messages that a connection delivers, each at its time. -/
def delivery
    (feed : FeedKind)
    (connection : UInt64)
    (messages : List (SseMessage × ClockTime)) : List Step :=
  messages.map fun message => .receive ⟨feed, connection, .message message.1⟩ message.2

/-- A connection that opens and then delivers messages. -/
def transmission
    (feed : FeedKind)
    (connection : UInt64)
    (opened : ClockTime)
    (messages : List (SseMessage × ClockTime)) : List Step :=
  .receive ⟨feed, connection, .opened⟩ opened :: delivery feed connection messages

/-- A message of the current connection that follows no unfinished line leaves
none, and does to the log and to the progress what it does in itself. -/
theorem receive_message
    {dashboard : Dashboard}
    {feed : FeedKind}
    {connection : UInt64}
    (current : (dashboard.coordinator.stream feed).connectionId = some connection)
    (fresh : dashboard.coordinator.lines feed = {})
    (message : SseMessage)
    (clock : ClockTime) :
    let after := dashboard.receive ⟨feed, connection, .message message⟩ clock
    let reception := Reception.ofMessage feed dashboard.coordinator.debug
      dashboard.coordinator.lastFinished message
    after.coordinator =
        { dashboard.coordinator with lastFinished := reception.lastFinished } ∧
      after.log =
        LogAction.performAll (LogSurface.sink clock) styledRenderer
          dashboard.coordinator.debug reception.actions dashboard.log ∧
      after.monitor = reception.payloads.foldl ProgressMonitor.apply dashboard.monitor := by
  have received := Coordinator.receive_message current fresh message
  refine ⟨?_, ?_, ?_⟩
  · rw [coordinator_receive, received]
  · rw [log_receive, received]
  · rw [monitor_receive, received]

/-- Messages of the current connection that follow no unfinished line leave
none, and do to the log and to the progress what they do in themselves. -/
theorem run_delivery
    {dashboard : Dashboard}
    {feed : FeedKind}
    {connection : UInt64}
    (current : (dashboard.coordinator.stream feed).connectionId = some connection)
    (fresh : dashboard.coordinator.lines feed = {})
    {capacity : Nat}
    {lines : List StyledText}
    (shows : dashboard.log.Shows capacity lines)
    (messages : List (SseMessage × ClockTime)) :
    let after := dashboard.run (delivery feed connection messages)
    let reception := Reception.ofMessages feed dashboard.coordinator.debug
      dashboard.coordinator.lastFinished (messages.map Prod.fst)
    after.coordinator = { dashboard.coordinator with lastFinished := reception.lastFinished } ∧
      after.log.Shows capacity
        (LogAction.performAll (Sink.newest capacity) styledRenderer
          dashboard.coordinator.debug reception.actions lines) ∧
      after.monitor = reception.payloads.foldl ProgressMonitor.apply dashboard.monitor := by
  induction messages generalizing dashboard lines with
  | nil => exact ⟨rfl, shows, rfl⟩
  | cons message rest inductionHypothesis =>
      let next := dashboard.receive ⟨feed, connection, .message message.1⟩ message.2
      let first := Reception.ofMessage feed dashboard.coordinator.debug
        dashboard.coordinator.lastFinished message.1
      obtain ⟨feeds, log, progress⟩ := receive_message current fresh message.1 message.2
      have shown : next.log.Shows capacity
          (LogAction.performAll (Sink.newest capacity) styledRenderer
            dashboard.coordinator.debug first.actions lines) := by
        rw [log]
        exact (LogSurface.sink_simulates_newest message.2 capacity).performAll
          styledRenderer _ _ shows
      have stillCurrent : (next.coordinator.stream feed).connectionId = some connection := by
        rw [coordinator_receive, Coordinator.stream_receive]
        exact current
      have stillFresh : next.coordinator.lines feed = {} := by
        rw [coordinator_receive]
        exact Coordinator.lines_receive_message current fresh message.1
      have others := inductionHypothesis stillCurrent stillFresh shown
      rw [feeds, progress] at others
      have unrolled : dashboard.run (delivery feed connection (message :: rest)) =
          next.run (delivery feed connection rest) := rfl
      rw [unrolled, List.map_cons, Reception.ofMessages, Reception.followedBy]
      simp only [LogAction.performAll_append, List.foldl_append]
      exact others

/-- A transmission of an open feed leaves the log and the progress as its
messages alone determine, whatever the log showed before. -/
theorem Coherent.run_transmission
    {dashboard : Dashboard}
    (coherent : dashboard.Coherent)
    {feed : FeedKind}
    (active : (dashboard.coordinator.stream feed).isActive = true)
    (opened : ClockTime)
    (messages : List (SseMessage × ClockTime)) :
    let connection := (dashboard.coordinator.stream feed).connection
    let after := dashboard.run (transmission feed connection opened messages)
    let reception := Reception.ofMessages feed dashboard.coordinator.debug none
      (messages.map Prod.fst)
    after.coordinator =
        { dashboard.coordinator.withLines feed {} with
          lastFinished := reception.lastFinished } ∧
      after.log.Shows dashboard.log.capacity
        (LogAction.performAll (Sink.newest dashboard.log.capacity) styledRenderer
          dashboard.coordinator.debug reception.actions []) ∧
      after.monitor = reception.payloads.foldl ProgressMonitor.apply dashboard.monitor := by
  intro connection after reception
  have received := coherent.consistent.receive_opened_of_active active
  let emptied := dashboard.receive ⟨feed, connection, .opened⟩ opened
  have feeds : emptied.coordinator =
      { dashboard.coordinator.withLines feed {} with lastFinished := none } := by
    rw [coordinator_receive, received]
  have debug : emptied.coordinator.debug = dashboard.coordinator.debug := by
    rw [coordinator_receive, Coordinator.debug_receive]
  have progress : emptied.monitor = dashboard.monitor := by
    rw [monitor_receive, received]
    rfl
  have shows : emptied.log.Shows dashboard.log.capacity [] := by
    rw [log_receive, received]
    exact ⟨rfl, rfl⟩
  have current : (emptied.coordinator.stream feed).connectionId = some connection := by
    rw [coordinator_receive, Coordinator.stream_receive]
    exact (coherent.consistent.sound feed).connectionId_of_active active
  have fresh : emptied.coordinator.lines feed = {} := by
    rw [feeds]
    exact dashboard.coordinator.lines_withLines_self feed {}
  have delivered := run_delivery current fresh shows messages
  rw [debug, progress, feeds] at delivered
  exact delivered

/-- Connecting again keeps the dashboard coherent. -/
theorem Coherent.forceReconnect
    {dashboard : Dashboard}
    (coherent : dashboard.Coherent)
    (now : Instant) :
    (dashboard.command (.forceReconnect now)).Coherent where
  consistent := coherent.consistent.step (.command (.forceReconnect now))
  wellFormed := coherent.wellFormed
  shown := coherent.shown

/-- When the last of some messages are sent again, they hold the last of the
payloads. -/
theorem payloads_suffix
    (feed : FeedKind)
    (debug : Bool)
    {messages again : List SseMessage}
    (resent : again <:+ messages) :
    (Reception.ofMessages feed debug none again).payloads <:+
      (Reception.ofMessages feed debug none messages).payloads := by
  obtain ⟨before, rfl⟩ := resent
  rw [Reception.payloads_ofMessages, Reception.payloads_ofMessages, List.flatMap_append]
  exact List.suffix_append _ _

/-- A second transmission of the last messages of a first one leaves the
progress as the first one left it.  When it has the same messages it leaves the
same log, too. -/
theorem Coherent.run_transmission_twice
    {dashboard : Dashboard}
    (coherent : dashboard.Coherent)
    {feed : FeedKind}
    (active : (dashboard.coordinator.stream feed).isActive = true)
    (opened reopened : ClockTime)
    (now : Instant)
    {messages again : List (SseMessage × ClockTime)}
    (resent : again.map Prod.fst <:+ messages.map Prod.fst) :
    let connection := (dashboard.coordinator.stream feed).connection
    let original := dashboard.run (transmission feed connection opened messages)
    let reconnected := original.command (.forceReconnect now)
    let replayed := reconnected.run (transmission feed (connection + 1) reopened again)
    (reconnected.coordinator.stream feed).connectionId = some (connection + 1) ∧
      replayed.monitor.state = original.monitor.state ∧
      (again.map Prod.fst = messages.map Prod.fst →
        replayed.log.contents = original.log.contents ∧
          replayed.coordinator.lastFinished = original.coordinator.lastFinished) := by
  intro connection original reconnected replayed
  obtain ⟨feeds, log, progress⟩ := coherent.run_transmission active opened messages
  have coherentAgain : reconnected.Coherent := (coherent.run _).forceReconnect now
  have stream : reconnected.coordinator.stream feed =
      (dashboard.coordinator.stream feed).forceReconnect now := by
    have kept : original.coordinator.stream feed = dashboard.coordinator.stream feed := by
      rw [feeds]
      exact dashboard.coordinator.stream_withLines feed feed {}
    rw [← kept]
    exact original.coordinator.stream_perform feed (.forceReconnect now)
  have activeAgain : (reconnected.coordinator.stream feed).isActive = true := by
    rw [stream, Stream.isActive_forceReconnect]
    exact active
  have current : (reconnected.coordinator.stream feed).connectionId =
      some (connection + 1) := by
    rw [stream]
    exact Stream.connectionId_forceReconnect active now
  have number : (reconnected.coordinator.stream feed).connection = connection + 1 := by
    have last := (coherentAgain.consistent.sound feed).connectionId_of_active activeAgain
    rw [current] at last
    exact (Option.some.inj last).symm
  have debug : reconnected.coordinator.debug = dashboard.coordinator.debug := by
    change original.coordinator.debug = _
    rw [feeds]
    cases feed <;> rfl
  have capacity : reconnected.log.capacity = dashboard.log.capacity := log.1
  obtain ⟨feedsAgain, logAgain, progressAgain⟩ :=
    coherentAgain.run_transmission activeAgain reopened again
  rw [number, debug] at feedsAgain logAgain progressAgain
  rw [capacity] at logAgain
  refine ⟨current, ?_, ?_⟩
  · rw [progressAgain, ProgressMonitor.state_foldl_apply]
    change List.foldl _ original.monitor.state _ = _
    rw [progress, ProgressMonitor.state_foldl_apply]
    exact ProgressState.foldl_afterPayload_suffix coherent.wellFormed
      (payloads_suffix feed _ resent)
  · intro same
    rw [same] at feedsAgain logAgain
    refine ⟨logAgain.2.trans log.2.symm, ?_⟩
    rw [feedsAgain, feeds]

/-- When a feed of a dashboard connects again after any run, and the server
sends some of the last messages again, the progress stays what it was before.
When it sends all of them again, so do the lines of the log and the run that is
shown as finished. -/
theorem replay_restores_log_and_progress
    (settings : Settings)
    (steps : List Step)
    (feed : FeedKind)
    (active : (((new settings).run steps).coordinator.stream feed).isActive = true)
    (opened reopened : ClockTime)
    (now : Instant)
    (messages again : List (SseMessage × ClockTime))
    (resent : again.map Prod.fst <:+ messages.map Prod.fst) :
    ∃ connection : UInt64,
      let before := (new settings).run steps
      let original := before.run (transmission feed connection opened messages)
      let reconnected := original.command (.forceReconnect now)
      let replayed := reconnected.run (transmission feed (connection + 1) reopened again)
      (before.coordinator.stream feed).connectionId = some connection ∧
        (reconnected.coordinator.stream feed).connectionId = some (connection + 1) ∧
        replayed.progress = original.progress ∧
        replayed.monitor.state = original.monitor.state ∧
        (again.map Prod.fst = messages.map Prod.fst →
          replayed.log.contents = original.log.contents ∧
            replayed.coordinator.lastFinished = original.coordinator.lastFinished) := by
  let before := (new settings).run steps
  have coherent : before.Coherent := (Coherent.new settings).run steps
  let connection := (before.coordinator.stream feed).connection
  refine ⟨connection, ?_⟩
  intro _ original reconnected replayed
  obtain ⟨next, progress, replay⟩ :=
    coherent.run_transmission_twice active opened reopened now resent
  refine ⟨(coherent.consistent.sound feed).connectionId_of_active active, next, ?_,
    progress, replay⟩
  have originalCoherent : original.Coherent := coherent.run _
  have replayedCoherent : replayed.Coherent :=
    (originalCoherent.forceReconnect now).run _
  rw [Dashboard.progress, Dashboard.progress, replayedCoherent.shown, originalCoherent.shown]
  exact progress

/-- A run that has started and made its plan is shown as before once its two
messages were sent again over the second connection. -/
theorem replay_after_plan :
    let started := (new {}).run [.start 0]
    let messages : List (SseMessage × ClockTime) :=
      [(⟨"message", "\x7b\"event\":\"run-start\"\x7d"⟩, ⟨10, 0, 0⟩),
        (⟨"message", "\x7b\"event\":\"plan\"\x7d"⟩, ⟨10, 0, 5⟩)]
    let again := messages.map fun message => (message.1, (⟨10, 1, 0⟩ : ClockTime))
    let original := started.run (transmission .verbose 1 ⟨10, 0, 0⟩ messages)
    let reconnected := original.command (.forceReconnect 60)
    let replayed := reconnected.run (transmission .verbose 2 ⟨10, 1, 0⟩ again)
    (started.coordinator.stream .verbose).isActive = true ∧
      again.map Prod.fst <:+ messages.map Prod.fst ∧
      original.progress.percent = 33 ∧
      replayed.progress = original.progress ∧
      replayed.log.contents = original.log.contents := by
  intro started messages again original reconnected replayed
  have active : (started.coordinator.stream .verbose).isActive = true := rfl
  have same : again.map Prod.fst = messages.map Prod.fst := rfl
  have resent : again.map Prod.fst <:+ messages.map Prod.fst := List.suffix_rfl
  have percent : original.progress.percent = 33 := by decide +kernel
  obtain ⟨connection, current, _, progress, _, replay⟩ :=
    replay_restores_log_and_progress {} [.start 0] .verbose active ⟨10, 0, 0⟩ ⟨10, 1, 0⟩ 60
      messages again resent
  have first : connection = 1 := (Option.some.inj current).symm
  have second : (1 + 1 : UInt64) = 2 := rfl
  rw [first, second] at progress replay
  exact ⟨active, resent, percent, progress, (replay same).1⟩

end Dashboard
end SyncWatch
