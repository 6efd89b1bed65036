import SyncWatch.Dashboard.View
import SyncWatch.Proofs.Feed.Consistency
import SyncWatch.Proofs.Progress.Band

/-!
# Runs of the dashboard

Whatever the server sends, the reader does and the clock brings, each step of
the dashboard asks its feeds at most one thing and takes some payloads into its
progress.  So in every run the feeds are consistent, the progress is
well-formed, and what is shown of it is what it is.
-/

namespace SyncWatch

open Feed Log Progress Screen

namespace Progress
namespace ProgressMonitor

/-- A payload that does not concern the progress would not change it. -/
theorem afterPayload_of_not_concerns
    {monitor : ProgressMonitor}
    {payload : SummaryPayload}
    (indifferent : monitor.concerns payload = false) :
    monitor.state.afterPayload payload = monitor.state := by
  cases payload with
  | event event =>
      have none : monitor.state.afterEvent? event = none := by
        simpa [concerns] using indifferent
      simp [ProgressState.afterPayload, ProgressState.afterEvent, none]
  | snapshot summary => simpa [concerns, ProgressState.afterPayload] using indifferent

/-- The progress takes every payload in, whether the display is told or not. -/
@[simp] theorem state_apply (monitor : ProgressMonitor) (payload : SummaryPayload) :
    (monitor.apply payload).state = monitor.state.afterPayload payload := by
  rw [apply]
  split
  next => rfl
  next indifferent =>
    rw [Bool.not_eq_true] at indifferent
    exact (afterPayload_of_not_concerns indifferent).symm

/-- What was shown of the progress stays what it is. -/
theorem view_state_apply
    {monitor : ProgressMonitor}
    (shown : monitor.view.state = monitor.state)
    (payload : SummaryPayload) :
    (monitor.apply payload).view.state = (monitor.apply payload).state := by
  rw [apply]
  split
  · rfl
  · exact shown

theorem state_foldl_apply (monitor : ProgressMonitor) (payloads : List SummaryPayload) :
    (payloads.foldl apply monitor).state =
      payloads.foldl ProgressState.afterPayload monitor.state := by
  induction payloads generalizing monitor with
  | nil => rfl
  | cons payload rest inductionHypothesis =>
      rw [List.foldl_cons, List.foldl_cons, inductionHypothesis, state_apply]

theorem view_state_foldl_apply
    {monitor : ProgressMonitor}
    (shown : monitor.view.state = monitor.state)
    (payloads : List SummaryPayload) :
    (payloads.foldl apply monitor).view.state = (payloads.foldl apply monitor).state := by
  induction payloads generalizing monitor with
  | nil => exact shown
  | cons payload rest inductionHypothesis =>
      exact inductionHypothesis (view_state_apply shown payload)

end ProgressMonitor
end Progress

namespace Dashboard

/-- Payloads change nothing of the dashboard but its progress. -/
theorem foldl_applyPayload (dashboard : Dashboard) (payloads : List SummaryPayload) :
    payloads.foldl applyPayload dashboard =
      { dashboard with monitor := payloads.foldl ProgressMonitor.apply dashboard.monitor } := by
  induction payloads generalizing dashboard with
  | nil => rfl
  | cons payload rest inductionHypothesis =>
      rw [List.foldl_cons, inductionHypothesis]
      rfl

/-- An event does to the feeds of the dashboard what it does to feeds. -/
@[simp] theorem coordinator_receive
    (dashboard : Dashboard)
    (event : StreamEvent)
    (clock : ClockTime) :
    (dashboard.receive event clock).coordinator = (dashboard.coordinator.receive event).1 := by
  rw [receive, foldl_applyPayload]
  rfl

/-- An event does to the log of the dashboard what is asked of it. -/
theorem log_receive
    (dashboard : Dashboard)
    (event : StreamEvent)
    (clock : ClockTime) :
    (dashboard.receive event clock).log =
      LogAction.performAll (LogSurface.sink clock) styledRenderer dashboard.coordinator.debug
        (dashboard.coordinator.receive event).2.actions dashboard.log := by
  rw [receive, foldl_applyPayload]
  rfl

@[simp] theorem monitor_noted
    (dashboard : Dashboard)
    (event : StreamEvent)
    (clock : ClockTime) :
    (dashboard.noted event clock).monitor = dashboard.monitor := by
  rw [noted]
  split <;> rfl

/-- An event tells the progress of the dashboard what it holds. -/
theorem monitor_receive
    (dashboard : Dashboard)
    (event : StreamEvent)
    (clock : ClockTime) :
    (dashboard.receive event clock).monitor =
      (dashboard.coordinator.receive event).2.payloads.foldl ProgressMonitor.apply
        dashboard.monitor := by
  rw [receive, foldl_applyPayload]
  simp only
  split
  · rw [monitor_noted]
    rfl
  · rfl

/-- One thing that happens to the dashboard. -/
inductive Step where
  | receive (event : StreamEvent) (clock : ClockTime)
  | applyPayload (payload : SummaryPayload)
  | act (action : Action) (now : Instant)
  | start (now : Instant)
  | checkSilence (now : Instant)
  /-- The worker of a feed reports to its session, which it never closes. -/
  | report (feed : FeedKind) (update : SessionUpdate) (alive : update ≠ .close)
  | draw (width height : Nat)
  /-- A line is written to the log directly. -/
  | push (line : StampedLine)
  | closeAll

/-- The dashboard after a step. -/
def step (dashboard : Dashboard) : Step → Dashboard
  | .receive event clock => dashboard.receive event clock
  | .applyPayload payload => dashboard.applyPayload payload
  | .act action now => dashboard.act action now
  | .start now => dashboard.start now
  | .checkSilence now => dashboard.checkSilence now
  | .report feed update _ => dashboard.report feed update
  | .draw width height => dashboard.drawn width height
  | .push line => dashboard.changeLog (·.push line)
  | .closeAll => dashboard.command .closeAll

/-- The dashboard after some steps. -/
def run (dashboard : Dashboard) (steps : List Step) : Dashboard :=
  steps.foldl step dashboard

/-- What the reader does asks the feeds one thing or nothing, and tells the
progress nothing. -/
theorem act_spec (dashboard : Dashboard) (action : Action) (now : Instant) :
    (∃ steps, (dashboard.act action now).coordinator = dashboard.coordinator.run steps) ∧
      (dashboard.act action now).monitor = dashboard.monitor := by
  cases action with
  | toggleDetails => exact ⟨⟨[.command (.toggleDetails now)], rfl⟩, rfl⟩
  | toggleDebug => exact ⟨⟨[.command .toggleDebug], rfl⟩, rfl⟩
  | reconnect =>
      simp only [act]
      split
      · exact ⟨⟨[.command (.forceReconnect now)], rfl⟩, rfl⟩
      · exact ⟨⟨[.command (.forceReconnect now)], rfl⟩, rfl⟩
  | focusChanged focused => exact ⟨⟨[.command (.visibility focused now)], rfl⟩, rfl⟩
  | _ => exact ⟨⟨[], rfl⟩, rfl⟩

/-- A step asks the feeds one thing or nothing. -/
theorem coordinator_step (dashboard : Dashboard) (step : Step) :
    ∃ steps, (dashboard.step step).coordinator = dashboard.coordinator.run steps := by
  cases step with
  | receive event clock => exact ⟨[.event event], dashboard.coordinator_receive event clock⟩
  | act action now => exact (dashboard.act_spec action now).1
  | start now => exact ⟨[.command (.start now)], rfl⟩
  | checkSilence now =>
      refine ⟨[.command (.tick now dashboard.visible)], ?_⟩
      simp only [Dashboard.step, checkSilence]
      split <;> rfl
  | report feed update alive => exact ⟨[.report feed update alive], rfl⟩
  | closeAll => exact ⟨[.command .closeAll], rfl⟩
  | _ => exact ⟨[], rfl⟩

/-- The payloads that a step takes into the progress: those the feeds find in an
event, or one that is handed over directly. -/
def payloadsOf (dashboard : Dashboard) : Step → List SummaryPayload
  | .receive event clock =>
    (dashboard.coordinator.handle (LogSurface.sink clock) styledRenderer event dashboard.log).2.2
  | .applyPayload payload => [payload]
  | _ => []

/-- A step does to the progress what its payloads do. -/
theorem monitor_step (dashboard : Dashboard) (step : Step) :
    (dashboard.step step).monitor =
      (dashboard.payloadsOf step).foldl ProgressMonitor.apply dashboard.monitor := by
  cases step with
  | receive event clock => exact dashboard.monitor_receive event clock
  | act action now => exact (dashboard.act_spec action now).2
  | checkSilence now =>
      simp only [Dashboard.step, checkSilence]
      split <;> rfl
  | _ => rfl

/-- The feeds are consistent, the progress is well-formed, and it is shown as
it is. -/
structure Coherent (dashboard : Dashboard) : Prop where
  consistent : dashboard.coordinator.Consistent
  wellFormed : dashboard.monitor.state.WellFormed
  shown : dashboard.monitor.view.state = dashboard.monitor.state

namespace Coherent

variable {dashboard : Dashboard}

/-- A dashboard that nothing has happened to is coherent. -/
theorem new (settings : Settings) : (Dashboard.new settings).Coherent where
  consistent := Coordinator.Consistent.unstarted _ _ _ _
  wellFormed := ProgressState.WellFormed.initial
  shown := rfl

/-- Every step keeps the dashboard coherent. -/
theorem step
    (coherent : dashboard.Coherent)
    (step : Step) :
    (dashboard.step step).Coherent := by
  obtain ⟨steps, feeds⟩ := dashboard.coordinator_step step
  refine ⟨?_, ?_, ?_⟩
  · rw [feeds]
    exact coherent.consistent.run steps
  · rw [monitor_step, ProgressMonitor.state_foldl_apply]
    exact coherent.wellFormed.foldl_afterPayload _
  · rw [monitor_step]
    exact ProgressMonitor.view_state_foldl_apply coherent.shown _

/-- Every run keeps the dashboard coherent. -/
theorem run
    (coherent : dashboard.Coherent)
    (steps : List Step) :
    (dashboard.run steps).Coherent := by
  induction steps generalizing dashboard with
  | nil => exact coherent
  | cons step rest inductionHypothesis => exact inductionHypothesis (coherent.step step)

end Coherent
end Dashboard
end SyncWatch
