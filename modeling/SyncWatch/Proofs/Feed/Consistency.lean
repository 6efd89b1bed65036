import SyncWatch.Proofs.Feed.Run
import Mathlib.Tactic.ByContra

/-!
# One feed at a time

At most one of the two feeds is open, and it is the one that the details call
for.  The session, the worker and the watch of a feed come and go together.
Both facts are kept by every step, whatever the workers report in between.
-/

namespace SyncWatch
namespace Feed

open Progress Log

namespace StreamSession

@[simp] theorem url_apply (session : StreamSession) (update : SessionUpdate) :
    (session.apply update).url = session.url := by
  cases update with
  | beginConnect now =>
      simp only [apply, beginConnect]
      split <;> rfl
  | opened now =>
      simp only [apply, opened]
      split <;> rfl
  | received now =>
      simp only [apply, received]
      split <;> rfl
  | failed error => rfl
  | close => rfl

/-- Nothing but a close ends a session. -/
theorem status_apply_ne_off
    {session : StreamSession}
    {update : SessionUpdate}
    (running : session.status ≠ .off)
    (alive : update ≠ .close) :
    (session.apply update).status ≠ .off := by
  have notClosed : session.isClosed = false := by simpa [isClosed] using running
  cases update with
  | beginConnect now => simp [apply, beginConnect, notClosed, touch]
  | opened now => simp [apply, opened, notClosed, touch]
  | received now => simp [apply, received, notClosed, touch]
  | failed error => simp [apply, failed, notClosed]
  | close => exact absurd rfl alive

end StreamSession

namespace Stream

/-- A feed is sound at an address when its worker and its watch are there
exactly while its session is, and the session belongs to the address and was
not closed. -/
structure Sound (stream : Stream) (url : String) : Prop where
  working : stream.working = stream.isActive
  armed : stream.watchdog.armed = stream.isActive
  session : ∀ session, stream.session = some session →
    session.url = url ∧ session.status ≠ .off

namespace Sound

variable {stream : Stream} {url : String}

/-- A feed that was never opened is sound. -/
theorem new (feed : FeedKind) (options : StreamOptions) (url : String) :
    (Stream.new feed options).Sound url where
  working := rfl
  armed := rfl
  session := by
    intro session present
    cases present

/-- A closed feed is sound, whatever it was before. -/
theorem close (stream : Stream) (url : String) : stream.close.Sound url where
  working := rfl
  armed := rfl
  session := by
    intro session present
    cases present

/-- A feed that was just opened is sound at its address. -/
theorem openAt (stream : Stream) (url : String) (now : Instant) :
    (stream.openAt url now).Sound url where
  working := rfl
  armed := rfl
  session := by
    intro session present
    rw [← Option.some.inj present]
    exact ⟨rfl, by simp [StreamSession.new]⟩

/-- A report of the worker changes nothing about soundness. -/
theorem report
    (sound : stream.Sound url)
    {update : SessionUpdate}
    (alive : update ≠ .close) :
    (stream.report update).Sound url where
  working := by rw [isActive_report, ← sound.working]; rfl
  armed := by rw [isActive_report, ← sound.armed]; rfl
  session := by
    intro session present
    obtain ⟨former, formerPresent, rfl⟩ := Option.map_eq_some_iff.mp present
    obtain ⟨address, running⟩ := sound.session former formerPresent
    exact ⟨(former.url_apply update).trans address,
      StreamSession.status_apply_ne_off running alive⟩

/-- Connecting again keeps the session, which begins to connect. -/
theorem forceReconnect
    (sound : stream.Sound url)
    (now : Instant) :
    (stream.forceReconnect now).Sound url := by
  cases present : stream.session with
  | none => simpa [Stream.forceReconnect, present] using sound
  | some session =>
      obtain ⟨address, running⟩ := sound.session session present
      have active : stream.isActive = true := by simp [isActive, present]
      refine ⟨?_, ?_, ?_⟩
      · rw [isActive_forceReconnect, active, Stream.forceReconnect, present]
        rfl
      · rw [isActive_forceReconnect, ← sound.armed, Stream.forceReconnect, present]
        rfl
      · intro current currentPresent
        simp only [Stream.forceReconnect, present, startWorker, Option.some.injEq]
          at currentPresent
        rw [← currentPresent]
        have alive : SessionUpdate.beginConnect now ≠ .close := by simp
        exact ⟨(session.url_apply (.beginConnect now)).trans address,
          StreamSession.status_apply_ne_off running alive⟩

/-- A check keeps a feed sound, whether it connects again or not. -/
theorem tick
    (sound : stream.Sound url)
    (now : Instant)
    (visible : Bool) :
    (stream.tick now visible).Sound url := by
  rw [tick_eq]
  split
  · apply Sound.forceReconnect
    exact ⟨sound.working, sound.armed, sound.session⟩
  · exact sound

/-- A move keeps a feed sound as long as it opens nothing at another address. -/
theorem move
    (sound : stream.Sound url)
    (move : Move)
    (addressed : ∀ target now, move = .openAt target now → target = url) :
    (stream.move move).Sound url := by
  cases move with
  | stay => exact sound
  | openAt target now =>
      rw [addressed target now rfl]
      exact Sound.openAt stream url now
  | close => exact Sound.close stream url
  | reconnect now => exact sound.forceReconnect now
  | check now visible => exact sound.tick now visible
  | report update alive => exact sound.report alive

/-- The three signs of an open feed agree: session, worker and watch. -/
theorem connectionId_isSome (sound : stream.Sound url) :
    stream.connectionId.isSome = stream.isActive := by
  rw [← sound.working, connectionId]
  cases stream.working <;> rfl

/-- The current connection of an open feed is the one that was numbered last. -/
theorem connectionId_of_active
    (sound : stream.Sound url)
    (active : stream.isActive = true) :
    stream.connectionId = some stream.connection := by
  rw [Stream.connectionId, sound.working, active]
  rfl

end Sound
end Stream

namespace Coordinator

@[simp] theorem endpoints_switchFeeds (coordinator : Coordinator) (now : Instant) :
    (coordinator.switchFeeds now).endpoints = coordinator.endpoints := by
  cases details : coordinator.detailsOpen <;>
    simp [switchFeeds, feedFor, details, FeedKind.other, withStream, withLines]

@[simp] theorem detailsOpen_switchFeeds (coordinator : Coordinator) (now : Instant) :
    (coordinator.switchFeeds now).detailsOpen = coordinator.detailsOpen := by
  cases details : coordinator.detailsOpen <;>
    simp [switchFeeds, feedFor, details, FeedKind.other, withStream, withLines]

@[simp] theorem endpoints_setDetails
    (coordinator : Coordinator)
    (detailsOpen : Bool)
    (now : Instant) :
    (coordinator.setDetails detailsOpen now).endpoints = coordinator.endpoints := by
  rw [setDetails]
  split
  · rfl
  · rw [endpoints_switchFeeds]

/-- The details are as they were set last. -/
@[simp] theorem detailsOpen_setDetails
    (coordinator : Coordinator)
    (detailsOpen : Bool)
    (now : Instant) :
    (coordinator.setDetails detailsOpen now).detailsOpen = detailsOpen := by
  rw [setDetails]
  split
  next same => exact same.1.symm
  next => rw [detailsOpen_switchFeeds]

/-- No step changes the addresses of the feeds. -/
@[simp] theorem endpoints_step (coordinator : Coordinator) (step : Step) :
    (coordinator.step step).endpoints = coordinator.endpoints := by
  cases step with
  | command command =>
      cases command with
      | start now => exact coordinator.endpoints_switchFeeds now
      | setDetails detailsOpen now => exact coordinator.endpoints_setDetails detailsOpen now
      | toggleDetails now => exact coordinator.endpoints_setDetails _ now
      | _ => rfl
  | event event => exact coordinator.endpoints_receive event
  | report feed update alive => cases feed <;> rfl

theorem endpoints_run (coordinator : Coordinator) (steps : List Step) :
    (coordinator.run steps).endpoints = coordinator.endpoints := by
  induction steps generalizing coordinator with
  | nil => rfl
  | cons step rest inductionHypothesis =>
      rw [run_cons, inductionHypothesis, endpoints_step]

/-- A switch opens a feed at its own address only. -/
theorem address_of_switchMove
    {coordinator : Coordinator}
    {detailsOpen : Bool}
    {feed : FeedKind}
    {now opened : Instant}
    {url : String}
    (opens : coordinator.switchMove detailsOpen feed now = .openAt url opened) :
    url = coordinator.endpoints.url feed := by
  rw [switchMove] at opens
  split at opens
  · exact (Move.openAt.inj opens).1.symm
  · cases opens

/-- A step opens a feed at its own address only. -/
theorem address_of_moveOf
    {coordinator : Coordinator}
    {feed : FeedKind}
    {step : Step}
    {now : Instant}
    {url : String}
    (opens : coordinator.moveOf feed step = .openAt url now) :
    url = coordinator.endpoints.url feed := by
  cases step with
  | command command =>
      cases command with
      | start now => exact address_of_switchMove opens
      | setDetails detailsOpen now =>
          rw [moveOf, commandMove] at opens
          split at opens
          · cases opens
          · exact address_of_switchMove opens
      | toggleDetails now => exact address_of_switchMove opens
      | _ => cases opens
  | event event => cases opens
  | report target update alive =>
      rw [moveOf] at opens
      split at opens <;> cases opens

/-- Both feeds are sound at their addresses, and only the one that the details
call for may be open. -/
structure Consistent (coordinator : Coordinator) : Prop where
  sound : ∀ feed, (coordinator.stream feed).Sound (coordinator.endpoints.url feed)
  follows : ∀ feed, (coordinator.stream feed).isActive = true →
    feed = feedFor coordinator.detailsOpen

namespace Consistent

variable {coordinator : Coordinator}

/-- Two feeds that nothing has happened to are consistent. -/
theorem unstarted
    (endpoints : FeedEndpoints)
    (options : StreamOptions)
    (debug detailsOpen : Bool) :
    (Coordinator.unstarted endpoints options debug detailsOpen).Consistent where
  sound := by
    intro feed
    cases feed
    · exact Stream.Sound.new .verbose options _
    · exact Stream.Sound.new .summary options _
  follows := by
    intro feed active
    cases feed <;> cases active

/-- After a switch the open feed is the one that the details called for. -/
theorem eq_feedFor_of_switchMove
    {detailsOpen : Bool}
    {feed : FeedKind}
    {now : Instant}
    (active : ((coordinator.stream feed).move
      (coordinator.switchMove detailsOpen feed now)).isActive = true) :
    feed = feedFor detailsOpen := by
  by_contra different
  rw [switchMove, if_neg different] at active
  cases active

/-- After a command the open feed is the one that the details call for. -/
theorem follows_perform
    (consistent : coordinator.Consistent)
    (command : Command)
    (feed : FeedKind)
    (active : ((coordinator.perform command).stream feed).isActive = true) :
    feed = feedFor (coordinator.perform command).detailsOpen := by
  have moved := active
  rw [stream_perform] at moved
  cases command with
  | start now =>
      rw [perform, start, detailsOpen_switchFeeds]
      exact eq_feedFor_of_switchMove moved
  | setDetails detailsOpen now =>
      rw [perform, detailsOpen_setDetails]
      rw [commandMove] at moved
      split at moved
      next same =>
        rw [same.1]
        exact consistent.follows feed moved
      next => exact eq_feedFor_of_switchMove moved
  | toggleDetails now =>
      rw [perform, toggleDetails, detailsOpen_setDetails]
      exact eq_feedFor_of_switchMove moved
  | closeAll => cases moved
  | _ =>
      -- What remains neither opens a feed nor changes the details.
      rw [Stream.isActive_move] at moved
      exact consistent.follows feed moved

/-- Every step keeps the feeds consistent. -/
theorem step
    (consistent : coordinator.Consistent)
    (step : Step) :
    (coordinator.step step).Consistent where
  sound := by
    intro feed
    rw [stream_step, endpoints_step]
    exact (consistent.sound feed).move _ fun url now opens => address_of_moveOf opens
  follows := by
    intro feed active
    cases step with
    | command command => exact consistent.follows_perform command feed active
    | event event =>
        rw [Coordinator.step, stream_receive] at active
        rw [Coordinator.step, detailsOpen_receive]
        exact consistent.follows feed active
    | report target update alive =>
        have kept : ((coordinator.step (.report target update alive)).stream feed).isActive =
            (coordinator.stream feed).isActive := by
          rw [stream_step, moveOf]
          split
          · exact (coordinator.stream feed).isActive_report update
          · rfl
        have same : (coordinator.report target update).detailsOpen =
            coordinator.detailsOpen := by
          cases target <;> rfl
        rw [kept] at active
        rw [Coordinator.step, same]
        exact consistent.follows feed active

/-- Every run keeps the feeds consistent. -/
theorem run
    (consistent : coordinator.Consistent)
    (steps : List Step) :
    (coordinator.run steps).Consistent := by
  induction steps generalizing coordinator with
  | nil => exact consistent
  | cons step rest inductionHypothesis => exact inductionHypothesis (consistent.step step)

/-- While a feed is open the other one is closed. -/
theorem other_isActive
    (consistent : coordinator.Consistent)
    {feed : FeedKind}
    (active : (coordinator.stream feed).isActive = true) :
    (coordinator.stream feed.other).isActive = false := by
  by_contra both
  rw [Bool.not_eq_false] at both
  have first := consistent.follows feed active
  have second := consistent.follows feed.other both
  rw [← first] at second
  cases feed <;> cases second

/-- A feed with a current connection is open. -/
theorem isActive_of_accepts
    (consistent : coordinator.Consistent)
    {event : StreamEvent}
    (accepted : coordinator.accepts event = true) :
    (coordinator.stream event.feed).isActive = true := by
  rw [accepts, beq_iff_eq] at accepted
  rw [← (consistent.sound event.feed).connectionId_isSome, accepted]
  rfl

end Consistent

/-- A new connection of the only open feed empties the log for a replay. -/
theorem receive_opened
    {coordinator : Coordinator}
    {event : StreamEvent}
    (opened : event.kind = .opened)
    (accepted : coordinator.accepts event = true)
    (alone : (coordinator.stream event.feed.other).isActive = false) :
    coordinator.receive event =
      ({ coordinator.withLines event.feed {} with lastFinished := none },
        { actions := [.beginReplay] }) := by
  simp [receive, receiveOpened, opened, accepted, alone]

/-- When the current connection of an open feed opens, the feed is alone. -/
theorem Consistent.receive_opened_of_active
    {coordinator : Coordinator}
    (consistent : coordinator.Consistent)
    {feed : FeedKind}
    (active : (coordinator.stream feed).isActive = true) :
    coordinator.receive ⟨feed, (coordinator.stream feed).connection, .opened⟩ =
      ({ coordinator.withLines feed {} with lastFinished := none },
        { actions := [.beginReplay] }) := by
  have accepted : coordinator.accepts
      ⟨feed, (coordinator.stream feed).connection, .opened⟩ = true := by
    rw [accepts, beq_iff_eq]
    exact (consistent.sound feed).connectionId_of_active active
  exact receive_opened rfl accepted (consistent.other_isActive active)

/-- Once the details are set the feed that they call for is open. -/
theorem isActive_setDetails
    (coordinator : Coordinator)
    (detailsOpen : Bool)
    (now : Instant) :
    ((coordinator.setDetails detailsOpen now).stream (feedFor detailsOpen)).isActive = true := by
  rw [stream_setDetails, commandMove]
  split
  next same => exact same.2
  next =>
    rw [switchMove, if_pos rfl]
    rfl

/-- Setting the details to what they were just set to changes nothing. -/
theorem setDetails_setDetails
    (coordinator : Coordinator)
    (detailsOpen : Bool)
    (first second : Instant) :
    (coordinator.setDetails detailsOpen first).setDetails detailsOpen second =
      coordinator.setDetails detailsOpen first := by
  rw [setDetails, if_pos]
  refine ⟨?_, coordinator.isActive_setDetails detailsOpen first⟩
  rw [detailsOpen_setDetails]

/-- In every run at most one feed is open: the one that the details call for,
at its own address, with a running session, a worker and an armed watch.  So a
new connection always finds its feed alone and empties the log, and setting the
details twice is setting them once. -/
theorem one_feed_at_a_time
    (endpoints : FeedEndpoints)
    (options : StreamOptions)
    (debug detailsOpen : Bool)
    (steps : List Step) :
    let coordinator := (unstarted endpoints options debug detailsOpen).run steps
    ¬(coordinator.verbose.isActive = true ∧ coordinator.summary.isActive = true) ∧
      (∀ feed, (coordinator.stream feed).isActive = true →
        (feed = .verbose ↔ coordinator.detailsOpen = true)) ∧
      (∀ session, coordinator.verbose.session = some session →
        session.url = endpoints.verbose) ∧
      (∀ session, coordinator.summary.session = some session →
        session.url = endpoints.summary) ∧
      (∀ feed session, (coordinator.stream feed).session = some session →
        session.status ≠ .off) ∧
      (∀ feed,
        (coordinator.stream feed).isActive = (coordinator.stream feed).session.isSome ∧
          (coordinator.stream feed).connectionId.isSome =
            (coordinator.stream feed).session.isSome ∧
          (coordinator.stream feed).watchdog.armed =
            (coordinator.stream feed).session.isSome) ∧
      (∀ event : StreamEvent, event.kind = .opened → coordinator.accepts event = true →
        (coordinator.stream event.feed.other).isActive = false ∧
          ∀ renderer : Renderer,
            (∀ (σ : Type) (sink : Sink σ) (log : σ),
              (coordinator.handle sink renderer event log).2.1 = sink.beginReplay log) ∧
            ∀ (clock : ClockTime) (surface : LogSurface),
              (coordinator.handle (LogSurface.sink clock) renderer event surface).2.1.lines =
                []) ∧
      ∀ (wanted : Bool) (first second : Instant),
        (coordinator.setDetails wanted first).setDetails wanted second =
          coordinator.setDetails wanted first := by
  intro coordinator
  have consistent : coordinator.Consistent :=
    (Consistent.unstarted endpoints options debug detailsOpen).run steps
  have addresses : coordinator.endpoints = endpoints := endpoints_run _ steps
  refine ⟨?_, ?_, ?_, ?_, ?_, ?_, ?_, coordinator.setDetails_setDetails⟩
  · rintro ⟨verbose, summary⟩
    have active : (coordinator.stream .verbose).isActive = true := verbose
    have closed : coordinator.summary.isActive = false := consistent.other_isActive active
    rw [closed] at summary
    cases summary
  · intro feed active
    rw [consistent.follows feed active]
    cases coordinator.detailsOpen <;> simp [feedFor]
  · intro session present
    rw [← addresses]
    exact ((consistent.sound .verbose).session session present).1
  · intro session present
    rw [← addresses]
    exact ((consistent.sound .summary).session session present).1
  · intro feed session present
    exact ((consistent.sound feed).session session present).2
  · intro feed
    exact ⟨rfl, (consistent.sound feed).connectionId_isSome, (consistent.sound feed).armed⟩
  · intro event opened accepted
    have alone := consistent.other_isActive (consistent.isActive_of_accepts accepted)
    have received := receive_opened opened accepted alone
    refine ⟨alone, fun renderer => ⟨fun σ sink log => ?_, fun clock surface => ?_⟩⟩
    · rw [handle, received]
      rfl
    · rw [handle, received]
      rfl

end Coordinator
end Feed
end SyncWatch
