import SyncWatch.Proofs.Feed.Transcript

/-!
# Finished runs are shown once

The summary feed sends the snapshot of a finished run again and again.  It gets
a line when it is news: when no run that finished was sent since the last new
connection or clear of the feed, or when the last one that was sent finished at
another time.  What is sent in between does not matter.
-/

namespace SyncWatch
namespace Feed

open Progress Log

namespace Arrival

/-- The finished run that a token of the summary feed holds. -/
def finished? : Arrival → Option RunSummary
  | .token .summary _ name (.line text) =>
    match SummaryPayload.parse name text with
    | .ok (.snapshot summary) => if summary.isFinished then some summary else none
    | _ => none
  | _ => none

/-- Whether finished runs are forgotten when something arrives: a new connection
of either feed, or a clear of the summary feed. -/
def forgets : Arrival → Bool
  | .opened | .token .summary _ _ .clear => true
  | _ => false

/-- The finished runs that arrived since they were forgotten last. -/
def finishedRuns (past : List Arrival) : List RunSummary :=
  (past.rtakeWhile fun arrival => !arrival.forgets).filterMap finished?

/-- Whether a snapshot is news after some arrivals: the run has finished, and
at another time than the last one that arrived; a time that is missing counts as
an empty text. -/
def isNews (past : List Arrival) (summary : RunSummary) : Bool :=
  summary.isFinished &&
    (finishedRuns past).getLast?.all fun last =>
      last.finishedAt.getD "" != summary.finishedAt.getD ""

theorem finished?_eq_some_iff
    {debug : Bool}
    {name text : String}
    {summary : RunSummary} :
    (Arrival.token .summary debug name (.line text)).finished? = some summary ↔
      SummaryPayload.parse name text = .ok (.snapshot summary) ∧ summary.isFinished = true := by
  rw [finished?]
  rcases SummaryPayload.parse name text with error | payload
  · simp
  · cases payload with
    | event event => simp
    | snapshot held =>
        simp only [Option.ite_none_right_eq_some, Except.ok.injEq, SummaryPayload.snapshot.injEq,
          Option.some.injEq]
        constructor
        · rintro ⟨finished, rfl⟩
          exact ⟨rfl, finished⟩
        · rintro ⟨rfl, finished⟩
          exact ⟨finished, rfl⟩

theorem finishedRuns_concat_of_forgets
    (past : List Arrival)
    {arrival : Arrival}
    (forgotten : arrival.forgets = true) :
    finishedRuns (past ++ [arrival]) = [] := by
  rw [finishedRuns, List.rtakeWhile_concat_neg _ _ _ (by simp [forgotten])]
  rfl

theorem finishedRuns_concat
    (past : List Arrival)
    {arrival : Arrival}
    (kept : arrival.forgets = false) :
    finishedRuns (past ++ [arrival]) = finishedRuns past ++ arrival.finished?.toList := by
  rw [finishedRuns, List.rtakeWhile_concat_pos _ _ _ (by simp [kept]), List.filterMap_append,
    ← finishedRuns]
  cases finished : arrival.finished? <;> simp [finished]

/-- What is known after an arrival: nothing, the finished run that it holds, or
what was known before. -/
theorem remember_eq (known : Option String) (arrival : Arrival) :
    arrival.remember known =
      if arrival.forgets then none
      else (arrival.finished?.map RunSummary.finishKey).or known := by
  cases arrival with
  | opened => rfl
  | token feed debug name token =>
      cases feed with
      | verbose => cases token <;> rfl
      | summary =>
          cases token with
          | clear => rfl
          | line text =>
              simp only [remember, forgets, finished?]
              cases SummaryPayload.parse name text with
              | error error => rfl
              | ok payload =>
                  cases payload with
                  | event event => rfl
                  | snapshot summary => cases finished : summary.isFinished <;> simp [finished]

/-- What is known is the last finished run since they were forgotten. -/
theorem foldl_remember (past : List Arrival) :
    past.foldl remember none = (finishedRuns past).getLast?.map RunSummary.finishKey := by
  induction past using List.reverseRecOn with
  | nil => rfl
  | append_singleton past arrival inductionHypothesis =>
      rw [List.foldl_append, inductionHypothesis, List.foldl_cons, List.foldl_nil, remember_eq]
      cases forgotten : arrival.forgets with
      | true =>
          rw [finishedRuns_concat_of_forgets past forgotten]
          rfl
      | false =>
          rw [finishedRuns_concat past forgotten]
          cases arrival.finished? with
          | none => simp
          | some summary => simp

/-- A finished run is news exactly when it is not the one that is known. -/
theorem isNews_eq (past : List Arrival) (summary : RunSummary) :
    isNews past summary =
      (summary.isFinished && past.foldl remember none != some summary.finishKey) := by
  rw [foldl_remember, isNews]
  cases (finishedRuns past).getLast? with
  | none => rfl
  | some last => rfl

end Arrival

namespace Reception

variable {feed : FeedKind} {debug : Bool} {name : String}

/-- Tokens do what those in front do, and then what the others do. -/
theorem ofTokens_append (known : Option String) (before after : List LogToken) :
    let first := ofTokens feed debug name known before
    ofTokens feed debug name known (before ++ after) =
      first.followedBy (ofTokens feed debug name first.lastFinished after) := by
  induction before generalizing known with
  | nil => rfl
  | cons token rest inductionHypothesis =>
      have others := inductionHypothesis (ofToken feed debug name known token).lastFinished
      simp only [List.cons_append, ofTokens, others, followedBy, List.append_assoc]

/-- A snapshot asks for a line when it is news, and it always tells about
progress. -/
theorem ofToken_snapshot
    {text : String}
    {summary : RunSummary}
    (decoded : SummaryPayload.parse name text = .ok (.snapshot summary))
    {known : Option String}
    {past : List Arrival}
    (remembered : known = past.foldl Arrival.remember none) :
    ofToken .summary debug name known (.line text) =
      { actions := if Arrival.isNews past summary then [.append text] else []
        payloads := [.snapshot summary]
        lastFinished := (Arrival.token .summary debug name (.line text)).remember known } := by
  rw [← lastFinished_ofToken, Arrival.isNews_eq, ← remembered, ofToken,
    ofSummaryToken_of_ok decoded, ofPayload]
  split <;> rfl

end Reception

namespace Coordinator

/-- In every run the snapshot that a token of an accepted message of the summary
feed holds is told to the progress, and the token gets a line between those of
the other tokens exactly when the snapshot is news after everything that arrived
before the token. -/
theorem finished_runs_are_shown_once
    (endpoints : FeedEndpoints)
    (options : StreamOptions)
    (debug detailsOpen : Bool)
    (steps : List Step)
    {connection : UInt64}
    {message : SseMessage}
    (accepted : ((unstarted endpoints options debug detailsOpen).run steps).accepts
      ⟨.summary, connection, .message message⟩ = true)
    {before after : List LogToken}
    {text : String}
    (tokens : message.tokens = before ++ .line text :: after)
    {summary : RunSummary}
    (decoded : SummaryPayload.parse message.event text = .ok (.snapshot summary))
    {σ : Type}
    (sink : Sink σ)
    (renderer : Renderer)
    (log : σ) :
    let feeds := unstarted endpoints options debug detailsOpen
    let coordinator := feeds.run steps
    let arrival : LogToken → Arrival := .token .summary coordinator.debug message.event
    let past := feeds.arrivals steps ++ before.map arrival
    let first := Reception.ofTokens .summary coordinator.debug message.event
      coordinator.lastFinished before
    let later := Reception.ofTokens .summary coordinator.debug message.event
      ((arrival (.line text)).remember first.lastFinished) after
    let handled :=
      coordinator.handle sink renderer ⟨.summary, connection, .message message⟩ log
    let shown := LogAction.performAll sink renderer coordinator.debug first.actions log
    handled.2.1 =
        LogAction.performAll sink renderer coordinator.debug later.actions
          (if Arrival.isNews past summary then sink.push (renderer coordinator.debug text) shown
            else shown) ∧
      handled.2.2 = first.payloads ++ .snapshot summary :: later.payloads := by
  intro feeds coordinator arrival past first later handled shown
  have journals := (Journals.unstarted endpoints options debug detailsOpen).run steps
  rw [List.nil_append] at journals
  have current : (coordinator.stream .summary).connectionId = some connection := by
    rw [accepts, beq_iff_eq] at accepted
    exact accepted
  have known : first.lastFinished = past.foldl Arrival.remember none := by
    rw [Reception.lastFinished_ofTokens, List.foldl_append, ← journals.known]
  have whole : Reception.ofMessage .summary coordinator.debug coordinator.lastFinished message =
      first.followedBy
        ((Reception.ofToken .summary coordinator.debug message.event first.lastFinished
          (.line text)).followedBy later) := by
    rw [Reception.ofMessage, tokens, Reception.ofTokens_append, Reception.ofTokens,
      Reception.lastFinished_ofToken]
  have received := receive_message current (journals.finished.lines .summary) message
  rw [whole, Reception.ofToken_snapshot decoded known] at received
  simp only [handled, handle, received, Reception.followedBy, LogAction.performAll_append]
  refine ⟨?_, rfl⟩
  split <;> rfl

/-- A run that finished at noon is news again after a clear, and not before it. -/
theorem finished_run_after_clear :
    let feeds := unstarted ({} : Settings).endpoints ({} : Settings).streamOptions false false
    let noon := "\x7b\"running\":false,\"exit_code\":0,\"finished_at\":\"noon\"\x7d"
    let steps : List Step :=
      [.command (.start 0), .event ⟨.summary, 1, .message ⟨"message", noon⟩⟩]
    let message : SseMessage := ⟨"message", noon ++ "\n::CLEAR::\n" ++ noon⟩
    (feeds.run steps).accepts ⟨.summary, 1, .message message⟩ = true ∧
      message.tokens = [.line noon, .clear] ++ .line noon :: [] ∧
      ∃ summary, SummaryPayload.parse message.event noon = .ok (.snapshot summary) ∧
        Arrival.isNews (feeds.arrivals steps) summary = false ∧
        ∀ (σ : Type) (sink : Sink σ) (renderer : Renderer) (log : σ),
          let handled :=
            (feeds.run steps).handle sink renderer ⟨.summary, 1, .message message⟩ log
          handled.2.1 = sink.push (renderer false noon) (sink.clear log) ∧
            handled.2.2.getLast? = some (.snapshot summary) := by
  intro feeds noon steps message
  have accepted : (feeds.run steps).accepts ⟨.summary, 1, .message message⟩ = true := by
    decide +kernel
  have tokens : message.tokens = [.line noon, .clear] ++ .line noon :: [] := by decide +kernel
  let arrival : LogToken → Arrival := .token .summary false "message"
  let earlier := Reception.ofTokens .summary false "message" (feeds.run steps).lastFinished
    [.line noon, .clear]
  have cleared : earlier.actions = [.clear] := by decide +kernel
  have news : ((arrival (.line noon)).finished?.any fun summary =>
      !Arrival.isNews (feeds.arrivals steps) summary &&
        Arrival.isNews (feeds.arrivals steps ++ [.line noon, .clear].map arrival) summary) =
        true := by
    decide +kernel
  obtain ⟨summary, finished, shownOnce⟩ := (Option.any_eq_true _ _).mp news
  simp only [Bool.and_eq_true, Bool.not_eq_true'] at shownOnce
  obtain ⟨decoded, _⟩ := Arrival.finished?_eq_some_iff.mp finished
  refine ⟨accepted, tokens, summary, decoded, shownOnce.1, ?_⟩
  intro σ sink renderer log handled
  obtain ⟨shown, told⟩ := finished_runs_are_shown_once _ _ false false steps accepted tokens
    decoded sink renderer log
  constructor
  · refine shown.trans ?_
    change LogAction.performAll sink renderer false _
      (if Arrival.isNews (feeds.arrivals steps ++ [.line noon, .clear].map arrival) summary
        then sink.push (renderer false noon)
          (LogAction.performAll sink renderer false earlier.actions log)
        else _) = _
    rw [if_pos shownOnce.2, cleared]
    rfl
  · refine (congrArg List.getLast? told).trans ?_
    exact List.getLast?_concat

end Coordinator
end Feed
end SyncWatch
