import SyncWatch.Proofs.Feed.Consistency
import SyncWatch.Proofs.Feed.SummaryMessages
import SyncWatch.Proofs.Log.Contents
import Mathlib.Data.List.DropRight

/-!
# What a transcript keeps

Two feeds write to one transcript.  What it shows is told by what arrived from
the current connections alone: the lines of the tokens after the last arrival
that emptied it, each in the form that was asked for when it came.
-/

namespace SyncWatch
namespace Feed

open Progress Log

/-- What arrives from the current connection of a feed. -/
inductive Arrival where
  /-- The connection opened. -/
  | opened
  /-- A token of a message with a name, in debugging mode or not. -/
  | token (feed : FeedKind) (debug : Bool) (name : String) (token : LogToken)
  deriving DecidableEq, Repr

namespace Arrival

/-- Whether an arrival empties the log before the feed sends its lines again. -/
def isOpened : Arrival → Bool
  | .opened => true
  | .token _ _ _ _ => false

/-- Whether an arrival empties the log for good. -/
def isClear : Arrival → Bool
  | .token _ _ _ .clear => true
  | _ => false

/-- Whether an arrival empties the log. -/
def isReset (arrival : Arrival) : Bool :=
  arrival.isOpened || arrival.isClear

/-- The finished run that is known as shown after an arrival.  A new connection
forgets it, and so does a clear of the feed that shows it. -/
def remember (known : Option String) : Arrival → Option String
  | .opened | .token .summary _ _ .clear => none
  | .token .summary _ name (.line text) =>
    match SummaryPayload.parse name text with
    | .ok (.snapshot summary) => if summary.isFinished then some summary.finishKey else known
    | _ => known
  | .token .verbose _ _ _ => known

/-- Whether a text gets a line.  Every text of the verbose feed does; one of
the summary feed has to hold an event of note, or a run that finished and is
not known as shown. -/
def earnsLine (known : Option String) (feed : FeedKind) (debug : Bool) (name text : String) :
    Bool :=
  match feed with
  | .verbose => true
  | .summary =>
    match SummaryPayload.parse name text with
    | .ok (.event event) => debug || Reception.isWorthLine event
    | .ok (.snapshot summary) => summary.isFinished && known != some summary.finishKey
    | .error _ => false

/-- The line of an arrival: its text as it was sent. -/
def line? (known : Option String) : Arrival → Option StyledText
  | .token feed debug name (.line text) =>
    if earnsLine known feed debug name text then
      some ⟨text, if debug then .raw else .plain⟩
    else
      none
  | _ => none

/-- Arrivals in their order, each with the finished run that was known as shown
when it came. -/
def withKnown : Option String → List Arrival → List (Option String × Arrival)
  | _, [] => []
  | known, arrival :: rest => (known, arrival) :: withKnown (remember known arrival) rest

/-- The lines of the arrivals after the last one that emptied the log. -/
def remainingLines (arrivals : List Arrival) : List StyledText :=
  let recent := (withKnown none arrivals).rtakeWhile fun entry => !entry.2.isReset
  recent.filterMap fun entry => entry.2.line? entry.1

theorem withKnown_concat
    (known : Option String)
    (arrivals : List Arrival)
    (arrival : Arrival) :
    withKnown known (arrivals ++ [arrival]) =
      withKnown known arrivals ++ [(arrivals.foldl remember known, arrival)] := by
  induction arrivals generalizing known with
  | nil => rfl
  | cons first rest inductionHypothesis =>
      rw [List.cons_append, withKnown, inductionHypothesis]
      rfl

theorem remainingLines_concat_of_isReset
    (arrivals : List Arrival)
    {arrival : Arrival}
    (resets : arrival.isReset = true) :
    remainingLines (arrivals ++ [arrival]) = [] := by
  rw [remainingLines, withKnown_concat, List.rtakeWhile_concat_neg]
  · rfl
  · simp [resets]

theorem remainingLines_concat
    (arrivals : List Arrival)
    {arrival : Arrival}
    (keeps : arrival.isReset = false) :
    remainingLines (arrivals ++ [arrival]) =
      remainingLines arrivals ++ (arrival.line? (arrivals.foldl remember none)).toList := by
  rw [remainingLines, withKnown_concat, List.rtakeWhile_concat_pos, List.filterMap_append]
  · rw [List.filterMap_cons, List.filterMap_nil]
    dsimp only [remainingLines]
    cases arrival.line? (arrivals.foldl remember none) <;> rfl
  · simp [keeps]

end Arrival

namespace Reception

/-- A token empties the log, or it asks for a line if its text earns one. -/
theorem actions_ofToken
    (feed : FeedKind)
    (debug : Bool)
    (name : String)
    (known : Option String)
    (token : LogToken) :
    (ofToken feed debug name known token).actions =
      match token with
      | .clear => [.clear]
      | .line text =>
        if Arrival.earnsLine known feed debug name text then [.append text] else [] := by
  cases token with
  | clear => cases feed <;> rfl
  | line text =>
      cases feed with
      | verbose => rfl
      | summary =>
          rw [ofToken]
          cases decoded : SummaryPayload.parse name text with
          | error error =>
              rw [ofSummaryToken_of_error decoded]
              simp [Arrival.earnsLine, decoded]
          | ok payload =>
              rw [ofSummaryToken_of_ok decoded]
              cases payload with
              | event event => simp only [ofPayload, Arrival.earnsLine, decoded]
              | snapshot summary =>
                  simp only [ofPayload, Arrival.earnsLine, decoded]
                  split <;> rfl

/-- A token changes the memory of the run that was last shown as finished. -/
theorem lastFinished_ofToken
    (feed : FeedKind)
    (debug : Bool)
    (name : String)
    (known : Option String)
    (token : LogToken) :
    (ofToken feed debug name known token).lastFinished =
      (Arrival.token feed debug name token).remember known := by
  cases token with
  | clear => cases feed <;> rfl
  | line text =>
      cases feed with
      | verbose => rfl
      | summary =>
          rw [ofToken]
          simp only [Arrival.remember]
          cases decoded : SummaryPayload.parse name text with
          | error error => rw [ofSummaryToken_of_error decoded]
          | ok payload =>
              rw [ofSummaryToken_of_ok decoded]
              cases payload with
              | event event => rfl
              | snapshot summary =>
                  simp only [ofPayload]
                  by_cases finished : summary.isFinished = true
                  · by_cases shown : known = some summary.finishKey
                    · simp [finished, shown]
                    · simp [finished, shown]
                  · simp [finished]

end Reception

/-- A transcript agrees with what arrived. -/
structure Transcribes (log : Transcript) (arrivals : List Arrival) : Prop where
  lines : log.lines = Arrival.remainingLines arrivals
  replays : log.replays = arrivals.countP Arrival.isOpened
  clears : log.clears = arrivals.countP Arrival.isClear

namespace Transcribes

variable {log : Transcript} {arrivals : List Arrival}

/-- A new connection empties the transcript for a replay. -/
theorem opened
    (transcribes : Transcribes log arrivals) :
    Transcribes (Transcript.sink.beginReplay log) (arrivals ++ [.opened]) where
  lines := (Arrival.remainingLines_concat_of_isReset arrivals rfl).symm
  replays := by rw [List.countP_append, ← transcribes.replays]; rfl
  clears := by rw [List.countP_append, ← transcribes.clears]; rfl

/-- What a token asks for is carried out on the transcript. -/
theorem token
    (transcribes : Transcribes log arrivals)
    (feed : FeedKind)
    (debug : Bool)
    (name : String)
    (token : LogToken) :
    Transcribes
      (LogAction.performAll Transcript.sink plainRenderer debug
        (Reception.ofToken feed debug name (arrivals.foldl Arrival.remember none) token).actions
        log)
      (arrivals ++ [.token feed debug name token]) := by
  rw [Reception.actions_ofToken]
  cases token with
  | clear =>
      refine ⟨(Arrival.remainingLines_concat_of_isReset arrivals rfl).symm, ?_, ?_⟩
      · rw [List.countP_append, ← transcribes.replays]
        rfl
      · rw [List.countP_append, ← transcribes.clears]
        rfl
  | line text =>
      refine ⟨?_, ?_, ?_⟩
      · rw [Arrival.remainingLines_concat arrivals rfl, ← transcribes.lines]
        simp only [Arrival.line?]
        split
        · rfl
        · exact (List.append_nil _).symm
      · rw [List.countP_append, ← transcribes.replays]
        dsimp only
        split <;> rfl
      · rw [List.countP_append, ← transcribes.clears]
        dsimp only
        split <;> rfl

/-- The tokens of a message are carried out one after the other. -/
theorem tokens
    (transcribes : Transcribes log arrivals)
    (feed : FeedKind)
    (debug : Bool)
    (name : String)
    (tokens : List LogToken) :
    Transcribes
      (LogAction.performAll Transcript.sink plainRenderer debug
        (Reception.ofTokens feed debug name (arrivals.foldl Arrival.remember none)
          tokens).actions
        log)
      (arrivals ++ tokens.map (.token feed debug name)) := by
  induction tokens generalizing log arrivals with
  | nil =>
      rw [List.map_nil, List.append_nil]
      exact transcribes
  | cons token rest inductionHypothesis =>
      have known : (Reception.ofToken feed debug name (arrivals.foldl Arrival.remember none)
          token).lastFinished =
            (arrivals ++ [Arrival.token feed debug name token]).foldl Arrival.remember none := by
        rw [Reception.lastFinished_ofToken, List.foldl_append]
        rfl
      rw [List.map_cons, List.append_cons, Reception.ofTokens, Reception.followedBy,
        LogAction.performAll_append, known]
      exact inductionHypothesis (transcribes.token feed debug name token)

end Transcribes

/-- Tokens leave the memory that they leave one after the other. -/
theorem Reception.lastFinished_ofTokens
    (feed : FeedKind)
    (debug : Bool)
    (name : String)
    (known : Option String)
    (tokens : List LogToken) :
    (ofTokens feed debug name known tokens).lastFinished =
      (tokens.map (Arrival.token feed debug name)).foldl Arrival.remember known := by
  induction tokens generalizing known with
  | nil => rfl
  | cons token rest inductionHypothesis =>
      rw [ofTokens, followedBy, lastFinished_ofToken, inductionHypothesis]
      rfl

namespace Coordinator

/-- What arrives in a step.  An event of a connection that was replaced does not
arrive, and nothing but a new connection or a message does. -/
def arrivalsOf (coordinator : Coordinator) : Step → List Arrival
  | .event event =>
    if coordinator.accepts event then
      match event.kind with
      | .opened => [.opened]
      | .message message => message.tokens.map (.token event.feed coordinator.debug message.event)
      | .error _ _ => []
    else
      []
  | .command _ | .report _ _ _ => []

/-- What arrives during some steps, in its order. -/
def arrivals : Coordinator → List Step → List Arrival
  | _, [] => []
  | coordinator, step :: rest =>
    coordinator.arrivalsOf step ++ (coordinator.step step).arrivals rest

/-- The transcript after a step, with every line as it was sent. -/
def write (coordinator : Coordinator) (log : Transcript) : Step → Transcript
  | .event event => (coordinator.handle Transcript.sink plainRenderer event log).2.1
  | .command _ | .report _ _ _ => log

/-- The transcript after some steps. -/
def transcript : Coordinator → Transcript → List Step → Transcript
  | _, log, [] => log
  | coordinator, log, step :: rest =>
    (coordinator.step step).transcript (coordinator.write log step) rest

/-- Only events change which run is known as shown. -/
theorem lastFinished_perform (coordinator : Coordinator) (command : Command) :
    (coordinator.perform command).lastFinished = coordinator.lastFinished := by
  have switched (coordinator : Coordinator) (now : Instant) :
      (coordinator.switchFeeds now).lastFinished = coordinator.lastFinished := by
    simp only [switchFeeds]
    cases feedFor coordinator.detailsOpen <;> rfl
  have set (coordinator : Coordinator) (detailsOpen : Bool) (now : Instant) :
      (coordinator.setDetails detailsOpen now).lastFinished = coordinator.lastFinished := by
    rw [setDetails]
    split
    · rfl
    · exact switched _ now
  cases command with
  | start now => exact switched coordinator now
  | setDetails detailsOpen now => exact set coordinator detailsOpen now
  | toggleDetails now => exact set coordinator _ now
  | _ => rfl

/-- The feeds and their transcript agree with what arrived so far. -/
structure Journals (coordinator : Coordinator) (log : Transcript) (past : List Arrival) :
    Prop where
  consistent : coordinator.Consistent
  finished : coordinator.LinesFinished
  known : coordinator.lastFinished = past.foldl Arrival.remember none
  transcribes : Transcribes log past

namespace Journals

variable {coordinator : Coordinator} {log : Transcript} {past : List Arrival}

/-- An event adds what it brings from the current connection, and an event of
a replaced one adds nothing. -/
theorem event
    (journals : coordinator.Journals log past)
    (event : StreamEvent) :
    (coordinator.receive event).1.lastFinished =
        (past ++ coordinator.arrivalsOf (.event event)).foldl Arrival.remember none ∧
      Transcribes (coordinator.write log (.event event))
        (past ++ coordinator.arrivalsOf (.event event)) := by
  rw [write, handle, arrivalsOf]
  by_cases accepted : coordinator.accepts event = true
  · rw [if_pos accepted, receive_of_accepted journals.consistent journals.finished accepted]
    obtain ⟨feed, connection, kind⟩ := event
    cases kind with
    | opened =>
        refine ⟨?_, journals.transcribes.opened⟩
        rw [List.foldl_append]
        rfl
    | message message =>
        simp only [journals.known]
        refine ⟨?_, journals.transcribes.tokens feed coordinator.debug message.event _⟩
        rw [List.foldl_append]
        exact Reception.lastFinished_ofTokens feed coordinator.debug message.event _ _
    | error message retryIn =>
        rw [List.append_nil]
        exact ⟨journals.known, journals.transcribes⟩
  · rw [if_neg accepted, List.append_nil, receive_of_rejected (Bool.eq_false_iff.mpr accepted)]
    exact ⟨journals.known, journals.transcribes⟩

/-- Every step keeps the agreement with what arrived. -/
theorem step
    (journals : coordinator.Journals log past)
    (step : Step) :
    (coordinator.step step).Journals (coordinator.write log step)
      (past ++ coordinator.arrivalsOf step) := by
  have consistent := journals.consistent.step step
  have finished := journals.finished.step step
  cases step with
  | command command =>
      rw [arrivalsOf, List.append_nil]
      refine ⟨consistent, finished, ?_, journals.transcribes⟩
      exact (coordinator.lastFinished_perform command).trans journals.known
  | event event =>
      obtain ⟨known, transcribes⟩ := journals.event event
      exact ⟨consistent, finished, known, transcribes⟩
  | report feed update alive =>
      rw [arrivalsOf, List.append_nil]
      refine ⟨consistent, finished, ?_, journals.transcribes⟩
      rw [← journals.known]
      cases feed <;> rfl

theorem run
    (journals : coordinator.Journals log past)
    (steps : List Step) :
    (coordinator.run steps).Journals (coordinator.transcript log steps)
      (past ++ coordinator.arrivals steps) := by
  induction steps generalizing coordinator log past with
  | nil =>
      rw [arrivals, List.append_nil]
      exact journals
  | cons step rest inductionHypothesis =>
      rw [arrivals, ← List.append_assoc]
      exact inductionHypothesis (journals.step step)

theorem unstarted
    (endpoints : FeedEndpoints)
    (options : StreamOptions)
    (debug detailsOpen : Bool) :
    (Coordinator.unstarted endpoints options debug detailsOpen).Journals {} [] where
  consistent := Consistent.unstarted endpoints options debug detailsOpen
  finished := LinesFinished.unstarted endpoints options debug detailsOpen
  known := rfl
  transcribes := ⟨rfl, rfl, rfl⟩

end Journals

/-- In every run the transcript shows exactly the lines of what arrived after
the last new connection or clear, in the order of arrival and as they were
sent.  It has counted every new connection and every clear that arrived.  A
message arrives as the pieces between its line feeds, each without one carriage
return at its end, unless it is the reserved text. -/
theorem transcript_of_arrivals
    (endpoints : FeedEndpoints)
    (options : StreamOptions)
    (debug detailsOpen : Bool)
    (steps : List Step) :
    let feeds := unstarted endpoints options debug detailsOpen
    let past := feeds.arrivals steps
    feeds.transcript {} steps =
        { lines := Arrival.remainingLines past
          clears := past.countP Arrival.isClear
          replays := past.countP Arrival.isOpened } ∧
      ∀ message : SseMessage,
        message.tokens =
          if Text.trim message.data.toList = "::CLEAR::".toList then [.clear]
          else
            (message.data.toList.splitOn '\n').map fun piece =>
              let content := if piece.getLast? = some '\r' then piece.dropLast else piece
              if Text.trim content = "::CLEAR::".toList then .clear
              else .line (String.ofList content) := by
  intro feeds past
  refine ⟨?_, SseMessage.tokens_eq⟩
  obtain ⟨lines, replays, clears⟩ :=
    ((Journals.unstarted endpoints options debug detailsOpen).run steps).transcribes
  rw [List.nil_append] at lines replays clears
  cases written : feeds.transcript {} steps with
  | mk shown cleared replayed =>
      rw [written] at lines replays clears
      rw [← lines, ← replays, ← clears]

end Coordinator
end Feed
end SyncWatch
