import SyncWatch.Progress.Machine
import SyncWatch.Proofs.Feed.Messages
import SyncWatch.Proofs.Feed.Transcript
import SyncWatch.Settings.Feeds

/-!
# Lines in debugging mode

Whether lines are shown as they were sent, and in which log and which form,
matters for nothing but those lines.  A step of the feeds leaves the same feeds
and tells the same payloads in either mode, and steps that only change the mode
can be left out.  So all that is decided from the feeds, and the progress of the
run with it, is the same in any two runs that differ in the mode alone.
-/

namespace SyncWatch
namespace Feed

open Progress Log

/-- Whether a step only changes between the two forms of lines. -/
def Step.isDebug : Step → Bool
  | .command (.setDebug _) | .command .toggleDebug => true
  | _ => false

/-- The steps that change more than the form of lines. -/
def undebugged (steps : List Step) : List Step :=
  steps.filter fun step => !step.isDebug

theorem undebugged_cons_of_isDebug {step : Step} (about : step.isDebug = true) (rest : List Step) :
    undebugged (step :: rest) = undebugged rest :=
  List.filter_cons_of_neg (by simp [about])

theorem undebugged_cons_of_plain {step : Step} (plain : step.isDebug = false) (rest : List Step) :
    undebugged (step :: rest) = step :: undebugged rest :=
  List.filter_cons_of_pos (by simp [plain])

/-- What tokens leave in memory does not depend on the form of lines. -/
theorem Reception.lastFinished_ofTokens_debug
    (feed : FeedKind)
    (debug other : Bool)
    (name : String)
    (known : Option String)
    (tokens : List LogToken) :
    (ofTokens feed debug name known tokens).lastFinished =
      (ofTokens feed other name known tokens).lastFinished := by
  have same : (fun known token => Arrival.remember known (.token feed debug name token)) =
      fun known token => Arrival.remember known (.token feed other name token) := by
    funext known token
    cases feed <;> cases token <;> rfl
  rw [lastFinished_ofTokens, lastFinished_ofTokens, List.foldl_map, List.foldl_map, same]

namespace Coordinator

/-- What a step is answered with. -/
def answerTo (coordinator : Coordinator) : Step → Option Bool
  | .command command => coordinator.answer command
  | .event _ | .report _ _ _ => none

/-- What a step tells about progress. -/
def payloadsOf (coordinator : Coordinator) : Step → List SummaryPayload
  | .event event => (coordinator.receive event).2.payloads
  | .command _ | .report _ _ _ => []

@[simp] theorem setDebug_setDebug (coordinator : Coordinator) (debug other : Bool) :
    (coordinator.setDebug debug).setDebug other = coordinator.setDebug other := rfl

@[simp] theorem stream_setDebug (coordinator : Coordinator) (debug : Bool) (feed : FeedKind) :
    (coordinator.setDebug debug).stream feed = coordinator.stream feed := rfl

theorem withLines_setDebug
    (coordinator : Coordinator)
    (debug : Bool)
    (feed : FeedKind)
    (lines : LineAssembler) :
    (coordinator.setDebug debug).withLines feed lines =
      (coordinator.withLines feed lines).setDebug debug := by
  cases feed <;> rfl

theorem switchFeeds_setDebug (coordinator : Coordinator) (debug : Bool) (now : Instant) :
    (coordinator.setDebug debug).switchFeeds now =
      (coordinator.switchFeeds now).setDebug debug := by
  have same : (coordinator.setDebug debug).detailsOpen = coordinator.detailsOpen := rfl
  rw [switchFeeds, switchFeeds, same]
  cases coordinator.detailsOpen <;> rfl

theorem setDetails_setDebug
    (coordinator : Coordinator)
    (debug detailsOpen : Bool)
    (now : Instant) :
    (coordinator.setDebug debug).setDetails detailsOpen now =
      (coordinator.setDetails detailsOpen now).setDebug debug := by
  rw [setDetails, setDetails, apply_ite (setDebug · debug), ← switchFeeds_setDebug]
  rfl

/-- A command that is not about the form of lines does the same in either mode. -/
theorem perform_setDebug
    (coordinator : Coordinator)
    {command : Command}
    (plain : (Step.command command).isDebug = false)
    (debug : Bool) :
    (coordinator.setDebug debug).perform command =
      (coordinator.perform command).setDebug debug := by
  cases command with
  | setDebug other => cases plain
  | toggleDebug => cases plain
  | start now => exact coordinator.switchFeeds_setDebug debug now
  | setDetails detailsOpen now => exact coordinator.setDetails_setDebug debug detailsOpen now
  | toggleDetails now => exact coordinator.setDetails_setDebug debug _ now
  | _ => rfl

theorem receiveOpened_setDebug (coordinator : Coordinator) (debug : Bool) (feed : FeedKind) :
    (coordinator.setDebug debug).receiveOpened feed =
      ((coordinator.receiveOpened feed).1.setDebug debug, (coordinator.receiveOpened feed).2) := by
  rw [receiveOpened, receiveOpened, withLines_setDebug, stream_setDebug]
  split <;> rfl

/-- A message does the same in either mode. -/
theorem receiveMessage_setDebug
    (coordinator : Coordinator)
    (debug : Bool)
    (feed : FeedKind)
    (message : SseMessage) :
    ((coordinator.setDebug debug).receiveMessage feed message).1 =
        (coordinator.receiveMessage feed message).1.setDebug debug ∧
      ((coordinator.setDebug debug).receiveMessage feed message).2.payloads =
        (coordinator.receiveMessage feed message).2.payloads := by
  let chunk := message.data.toList ++ ['\n']
  let tokens := (coordinator.lines feed).tokens chunk
  refine ⟨?_, ?_⟩
  · have memory := Reception.lastFinished_ofTokens_debug feed debug coordinator.debug
      message.event coordinator.lastFinished tokens
    rw [receiveMessage, receiveMessage, withLines_setDebug]
    exact congrArg (fun lastFinished =>
      { (coordinator.withLines feed ((coordinator.lines feed).push chunk)).setDebug debug with
        lastFinished }) memory
  · exact (Reception.payloads_ofTokens feed debug _ _ tokens).trans
      (Reception.payloads_ofTokens feed coordinator.debug _ _ tokens).symm

/-- An event does the same in either mode. -/
theorem receive_setDebug (coordinator : Coordinator) (debug : Bool) (event : StreamEvent) :
    ((coordinator.setDebug debug).receive event).1 =
        (coordinator.receive event).1.setDebug debug ∧
      ((coordinator.setDebug debug).receive event).2.payloads =
        (coordinator.receive event).2.payloads := by
  have accepts : (coordinator.setDebug debug).accepts event = coordinator.accepts event := rfl
  rw [receive, receive, accepts]
  split
  · cases event.kind with
    | opened =>
        dsimp only
        rw [receiveOpened_setDebug]
        exact ⟨rfl, rfl⟩
    | message message => exact coordinator.receiveMessage_setDebug debug event.feed message
    | error message retryIn => exact ⟨rfl, rfl⟩
  · exact ⟨rfl, rfl⟩

/-- A step that is not about the form of lines does the same in either mode. -/
theorem step_setDebug
    (coordinator : Coordinator)
    {step : Step}
    (plain : step.isDebug = false)
    (debug : Bool) :
    (coordinator.setDebug debug).step step = (coordinator.step step).setDebug debug := by
  cases step with
  | command command => exact coordinator.perform_setDebug plain debug
  | event event => exact (coordinator.receive_setDebug debug event).1
  | report feed update alive => cases feed <;> rfl

/-- A step about the form of lines changes nothing but that form. -/
theorem setDebug_step_of_isDebug
    (coordinator : Coordinator)
    {step : Step}
    (about : step.isDebug = true)
    (debug : Bool) :
    (coordinator.step step).setDebug debug = coordinator.setDebug debug := by
  cases step with
  | command command =>
      cases command with
      | setDebug other => rfl
      | toggleDebug => rfl
      | _ => cases about
  | event event => cases about
  | report feed update alive => cases about

/-- A step about the form of lines tells nothing about progress. -/
theorem payloadsOf_of_isDebug
    (coordinator : Coordinator)
    {step : Step}
    (about : step.isDebug = true) :
    coordinator.payloadsOf step = [] := by
  cases step with
  | event event => cases about
  | _ => rfl

theorem payloadsOf_setDebug (coordinator : Coordinator) (debug : Bool) (step : Step) :
    (coordinator.setDebug debug).payloadsOf step = coordinator.payloadsOf step := by
  cases step with
  | command command => rfl
  | event event => exact (coordinator.receive_setDebug debug event).2
  | report feed update alive => rfl

theorem answerTo_setDebug
    (coordinator : Coordinator)
    {step : Step}
    (plain : step.isDebug = false)
    (debug : Bool) :
    (coordinator.setDebug debug).answerTo step = coordinator.answerTo step := by
  cases step with
  | command command =>
      cases command with
      | toggleDebug => cases plain
      | _ => rfl
  | event event => rfl
  | report feed update alive => rfl

end Coordinator

/-- How lines are shown: what a log does with them, and the form that they take. -/
structure Display (σ : Type) where
  sink : Sink σ
  renderer : Renderer

/-- The feeds, with the log that shows their lines and the progress that follows
from their payloads. -/
structure Console (σ : Type) where
  coordinator : Coordinator
  log : σ
  monitor : ProgressMonitor := {}

/-- Everything that a step tells and leaves but the form of lines. -/
structure Account where
  answer : Option Bool
  payloads : List SummaryPayload
  /-- The feeds after the step, as if lines were shown in their readable form. -/
  coordinator : Coordinator
  /-- The progress after the step. -/
  monitor : ProgressMonitor

/-- The accounts of steps by feeds that show no lines at all. -/
def Coordinator.accounts : Coordinator → ProgressMonitor → List Step → List Account
  | _, _, [] => []
  | coordinator, monitor, step :: rest =>
    let payloads := coordinator.payloadsOf step
    let next := coordinator.step step
    let progress := payloads.foldl ProgressMonitor.apply monitor
    ⟨coordinator.answerTo step, payloads, next, progress⟩ :: next.accounts progress rest

namespace Console

variable {σ : Type}

/-- The console after a step, with the payloads that the step tells. -/
def step (display : Display σ) (console : Console σ) : Step → Console σ × List SummaryPayload
  | .event event =>
    let handled :=
      console.coordinator.handle display.sink display.renderer event console.log
    let monitor := handled.2.2.foldl ProgressMonitor.apply console.monitor
    ({ coordinator := handled.1, log := handled.2.1, monitor }, handled.2.2)
  | step => ({ console with coordinator := console.coordinator.step step }, [])

/-- The console after some steps. -/
def run (display : Display σ) (console : Console σ) (steps : List Step) : Console σ :=
  steps.foldl (fun console step => (console.step display step).1) console

/-- The accounts of all steps that are not about the form of lines. -/
def accounts (display : Display σ) : Console σ → List Step → List Account
  | _, [] => []
  | console, step :: rest =>
    let next := console.step display step
    let others := accounts display next.1 rest
    if step.isDebug then others
    else
      ⟨console.coordinator.answerTo step, next.2, next.1.coordinator.setDebug false,
        next.1.monitor⟩ :: others

theorem coordinator_step (display : Display σ) (console : Console σ) (step : Step) :
    (console.step display step).1.coordinator = console.coordinator.step step := by
  cases step <;> rfl

theorem payloads_step (display : Display σ) (console : Console σ) (step : Step) :
    (console.step display step).2 = console.coordinator.payloadsOf step := by
  cases step <;> rfl

theorem monitor_step (display : Display σ) (console : Console σ) (step : Step) :
    (console.step display step).1.monitor =
      (console.coordinator.payloadsOf step).foldl ProgressMonitor.apply console.monitor := by
  cases step <;> rfl

/-- A console tells of a run what its feeds tell of it that show no lines, once
the steps about the form of lines are left out. -/
theorem accounts_eq (display : Display σ) (console : Console σ) (steps : List Step) :
    console.accounts display steps =
      (console.coordinator.setDebug false).accounts console.monitor (undebugged steps) := by
  induction steps generalizing console with
  | nil => rfl
  | cons step rest inductionHypothesis =>
      rw [accounts, inductionHypothesis, coordinator_step, monitor_step, payloads_step]
      cases about : step.isDebug with
      | true =>
          rw [undebugged_cons_of_isDebug about, if_pos rfl,
            console.coordinator.setDebug_step_of_isDebug about,
            console.coordinator.payloadsOf_of_isDebug about, List.foldl_nil]
      | false =>
          rw [undebugged_cons_of_plain about, if_neg Bool.false_ne_true, Coordinator.accounts,
            console.coordinator.answerTo_setDebug about, Coordinator.payloadsOf_setDebug,
            console.coordinator.step_setDebug about]

/-- After a run the feeds are those that were left by the steps that are not
about the form of lines. -/
theorem coordinator_run (display : Display σ) (console : Console σ) (steps : List Step) :
    (console.run display steps).coordinator.setDebug false =
      (console.coordinator.setDebug false).run (undebugged steps) := by
  induction steps generalizing console with
  | nil => rfl
  | cons step rest inductionHypothesis =>
      rw [run, List.foldl_cons, ← run, inductionHypothesis, coordinator_step]
      cases about : step.isDebug with
      | true =>
          rw [undebugged_cons_of_isDebug about,
            console.coordinator.setDebug_step_of_isDebug about]
      | false =>
          rw [undebugged_cons_of_plain about, Coordinator.run_cons,
            console.coordinator.step_setDebug about]

/-- After a run the progress is what follows from the accounts. -/
theorem monitor_run (display : Display σ) (console : Console σ) (steps : List Step) :
    (console.run display steps).monitor =
      ((console.accounts display steps).flatMap Account.payloads).foldl ProgressMonitor.apply
        console.monitor := by
  induction steps generalizing console with
  | nil => rfl
  | cons step rest inductionHypothesis =>
      rw [run, List.foldl_cons, ← run, inductionHypothesis, monitor_step, accounts]
      cases about : step.isDebug with
      | true =>
          rw [console.coordinator.payloadsOf_of_isDebug about, List.foldl_nil, if_pos rfl]
      | false =>
          rw [if_neg Bool.false_ne_true, List.flatMap_cons, List.foldl_append, payloads_step]

end Console

/-- Two consoles with the same feeds and the same progress, of which one may
show lines in debugging mode and in a log and a form of its own, go through runs
that differ in the steps about that mode.  Then each of the other steps has the
same answer and tells the same payloads in both, and leaves the same feeds, the
mode apart, and the same progress; and so do the runs as a whole. -/
theorem debug_mode_changes_lines_only
    {σ τ : Type}
    (display : Display σ)
    (otherDisplay : Display τ)
    (coordinator : Coordinator)
    (debug otherDebug : Bool)
    (log : σ)
    (otherLog : τ)
    (monitor : ProgressMonitor)
    {steps otherSteps : List Step}
    (same : undebugged steps = undebugged otherSteps) :
    let console : Console σ := ⟨coordinator.setDebug debug, log, monitor⟩
    let other : Console τ := ⟨coordinator.setDebug otherDebug, otherLog, monitor⟩
    let after := console.run display steps
    let otherAfter := other.run otherDisplay otherSteps
    console.accounts display steps = other.accounts otherDisplay otherSteps ∧
      after.coordinator.setDebug false = otherAfter.coordinator.setDebug false ∧
      after.monitor = otherAfter.monitor := by
  intro console other after otherAfter
  have accounts : console.accounts display steps = other.accounts otherDisplay otherSteps := by
    rw [Console.accounts_eq, Console.accounts_eq, same]
    rfl
  refine ⟨accounts, ?_, ?_⟩
  · rw [Console.coordinator_run, Console.coordinator_run, same]
    rfl
  · rw [Console.monitor_run, Console.monitor_run, accounts]

/-- A step of the writes gets a line in debugging mode only, and the progress
that it makes is the same without the line. -/
theorem progress_without_line :
    let coordinator := (({} : Settings).withDetails false).coordinator
    let sent : Step := .event
      ⟨.summary, 1, .message ⟨"message", "\x7b\"event\":\"apply:add:progress\"\x7d"⟩⟩
    let steps : List Step := [.command (.start 0), .command .toggleDebug, sent]
    let otherSteps : List Step := [.command (.start 0), sent, .command (.setDebug true)]
    let console : Console Transcript := ⟨coordinator.setDebug false, {}, {}⟩
    let other : Console LogSurface := ⟨coordinator.setDebug false, LogSurface.new 10 1, {}⟩
    let after := console.run ⟨Transcript.sink, plainRenderer⟩ steps
    let otherAfter := other.run ⟨LogSurface.sink ⟨12, 0, 0⟩, styledRenderer⟩ otherSteps
    undebugged steps = undebugged otherSteps ∧
      after.log.lines.length = 1 ∧
      otherAfter.log.lines = [] ∧
      otherAfter.monitor.state.percent = 66 ∧
      after.monitor = otherAfter.monitor := by
  intro coordinator sent steps otherSteps console other after otherAfter
  have same : undebugged steps = undebugged otherSteps := rfl
  refine ⟨same, by decide +kernel, by decide +kernel, by decide +kernel, ?_⟩
  exact (debug_mode_changes_lines_only ⟨Transcript.sink, plainRenderer⟩
    ⟨LogSurface.sink ⟨12, 0, 0⟩, styledRenderer⟩ coordinator false false {} (LogSurface.new 10 1)
    {} same).2.2

end Feed
end SyncWatch
