import SyncWatch.Proofs.Dashboard.Run

/-!
# Updates of the progress display

The display of the progress is a copy that is kept in step by notifications
alone.  An event is reported to it unless its kind is `other`, even when it
changes nothing, and a snapshot is reported only when it changes the progress.
No payload changes the progress without being reported, so the copy never
falls behind, and the number of its updates is the number of reported payloads.
-/

namespace SyncWatch

open Progress

namespace Progress
namespace ProgressState

/-- Whether the display is told of a payload: of an event when its kind has a
meaning for progress, and of a snapshot when it changes the progress. -/
def isTold (state : ProgressState) : SummaryPayload → Bool
  | .event event => event.kind != .other
  | .snapshot summary => state.afterSummary summary ≠ state

/-- How many of some payloads the display is told of, each in the state that
the ones before it have led to. -/
def tellings (state : ProgressState) : List SummaryPayload → Nat
  | [] => 0
  | payload :: rest =>
    (if state.isTold payload then 1 else 0) + (state.afterPayload payload).tellings rest

/-- Exactly the events of a kind other than `other` have a transition. -/
theorem isSome_afterEvent? (state : ProgressState) (event : SyncEvent) :
    (state.afterEvent? event).isSome = (event.kind != .other) := by
  rw [afterEvent?]
  cases event.kind with
  | applyProgress => cases event.fraction <;> rfl
  | _ => rfl

end ProgressState

namespace ProgressMonitor

theorem concerns_eq_isTold (monitor : ProgressMonitor) (payload : SummaryPayload) :
    monitor.concerns payload = monitor.state.isTold payload := by
  cases payload with
  | event event => exact monitor.state.isSome_afterEvent? event
  | snapshot summary => rfl

/-- A payload is counted once when the display is told of it. -/
theorem updates_apply (monitor : ProgressMonitor) (payload : SummaryPayload) :
    (monitor.apply payload).view.updates =
      monitor.view.updates + if monitor.state.isTold payload then 1 else 0 := by
  rw [apply, concerns_eq_isTold]
  split <;> rfl

theorem updates_foldl_apply (monitor : ProgressMonitor) (payloads : List SummaryPayload) :
    (payloads.foldl apply monitor).view.updates =
      monitor.view.updates + monitor.state.tellings payloads := by
  induction payloads generalizing monitor with
  | nil => rfl
  | cons payload rest inductionHypothesis =>
      rw [List.foldl_cons, inductionHypothesis, updates_apply, state_apply,
        ProgressState.tellings, Nat.add_assoc]

end ProgressMonitor
end Progress

namespace Dashboard

/-- The payloads that some steps take into the progress, in their order. -/
def payloads (dashboard : Dashboard) : List Step → List SummaryPayload
  | [] => []
  | step :: rest => dashboard.payloadsOf step ++ (dashboard.step step).payloads rest

/-- A run does to the progress what its payloads do. -/
theorem monitor_run (dashboard : Dashboard) (steps : List Step) :
    (dashboard.run steps).monitor =
      (dashboard.payloads steps).foldl ProgressMonitor.apply dashboard.monitor := by
  induction steps generalizing dashboard with
  | nil => rfl
  | cons step rest inductionHypothesis =>
      rw [run, List.foldl_cons, ← run, inductionHypothesis, monitor_step, payloads,
        List.foldl_append]

/-- In every run the progress that is shown is the progress as it is, before
and after each step, and a step adds to the number of updates the number of its
payloads that the display is told of.  So the display was updated as often as
the payloads of the run called for. -/
theorem progress_is_shown_and_updates_are_counted
    (settings : Settings)
    (steps : List Step) :
    let before := (new settings).run steps
    before.progress = before.monitor.state ∧
      before.monitor.view.updates =
        ({} : ProgressState).tellings ((new settings).payloads steps) ∧
      ∀ step,
        let after := before.step step
        after.progress = after.monitor.state ∧
          after.monitor.state =
            (before.payloadsOf step).foldl ProgressState.afterPayload before.monitor.state ∧
          after.monitor.view.updates =
            before.monitor.view.updates +
              before.monitor.state.tellings (before.payloadsOf step) := by
  intro before
  have coherent : before.Coherent := (Coherent.new settings).run steps
  refine ⟨coherent.shown, ?_, fun step => ⟨(coherent.step step).shown, ?_, ?_⟩⟩
  · rw [monitor_run, ProgressMonitor.updates_foldl_apply]
    exact Nat.zero_add _
  · rw [monitor_step, ProgressMonitor.state_foldl_apply]
  · rw [monitor_step, ProgressMonitor.updates_foldl_apply]

end Dashboard
end SyncWatch
