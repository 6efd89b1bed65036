import SyncWatch.Proofs.Feed.SummaryMessages
import SyncWatch.Proofs.Log.Readable

/-!
# What the compact view shows

A message of the summary feed in one line is decoded under its own name, and
the line that it is given in the log is decoded once more, without markup and
without the name.  The two readings agree on a line without markup as long as
the name does not matter.
-/

namespace SyncWatch
namespace Feed

open Progress Log

/-- A message in one line that holds a payload is one token. -/
theorem SseMessage.tokens_of_parse
    {message : SseMessage}
    {payload : SummaryPayload}
    (single : '\n' ∉ message.data.toList)
    (decoded : SummaryPayload.parse message.event message.data = .ok payload) :
    message.tokens = [.line (String.ofList (dropReturn message.data.toList))] := by
  obtain ⟨inside, braces⟩ := SummaryPayload.exists_trim_eq_braces decoded
  have plain : isSentinel message.data.toList = false := by
    rw [isSentinel, braces]
    rfl
  rw [SseMessage.tokens_of_not_isSentinel plain, List.splitOn_eq_singleton single,
    List.map_singleton, LogToken.ofLine, isSentinel_dropReturn, plain]
  rfl

namespace Reception

/-- Whether the compact view gives a payload a line, after the run that was
shown last as finished. -/
def showsLine (lastFinished : Option String) : SummaryPayload → Bool
  | .event event => isWorthLine event
  | .snapshot summary => summary.isFinished && lastFinished != some summary.finishKey

theorem actions_ofPayload
    (lastFinished : Option String)
    (text : String)
    (payload : SummaryPayload) :
    (ofPayload false lastFinished text payload).actions =
      if showsLine lastFinished payload then [.append text] else [] := by
  cases payload with
  | event event => cases worth : isWorthLine event <;> simp [ofPayload, showsLine, worth]
  | snapshot summary =>
      rw [ofPayload]
      split
      next new => rw [showsLine, new, if_pos rfl]
      next known => rw [showsLine, if_neg known]

/-- A message in one line that holds a payload does what the payload does. -/
theorem actions_ofMessage_of_parse
    {message : SseMessage}
    {payload : SummaryPayload}
    (single : '\n' ∉ message.data.toList)
    (decoded : SummaryPayload.parse message.event message.data = .ok payload)
    (lastFinished : Option String) :
    (ofMessage .summary false lastFinished message).actions =
      if showsLine lastFinished payload then
        [.append (String.ofList (dropReturn message.data.toList))]
      else [] := by
  have again : SummaryPayload.parse message.event
      (String.ofList (dropReturn message.data.toList)) = .ok payload := by
    rw [SummaryPayload.parse_congr (trimmed_dropReturn message.data), decoded]
  rw [ofMessage, SseMessage.tokens_of_parse single decoded, ofTokens, ofTokens, followedBy,
    ofToken, ofSummaryToken_of_ok again, actions_ofPayload]
  exact List.append_nil _

end Reception

namespace Coordinator

/-- A message that follows no unfinished line asks of the log what it asks by itself. -/
theorem log_handle_message
    {σ : Type}
    {coordinator : Coordinator}
    {feed : FeedKind}
    {connection : UInt64}
    {message : SseMessage}
    (accepted : coordinator.accepts ⟨feed, connection, .message message⟩ = true)
    (fresh : coordinator.lines feed = {})
    (sink : Sink σ)
    (renderer : Renderer)
    (log : σ) :
    (coordinator.handle sink renderer ⟨feed, connection, .message message⟩ log).2.1 =
      LogAction.performAll sink renderer coordinator.debug
        (Reception.ofMessage feed coordinator.debug coordinator.lastFinished message).actions
        log := by
  rw [accepts, beq_iff_eq] at accepted
  rw [handle, receive_message accepted fresh]

/-- In every run with lines in their readable form, a message of the summary
feed in one line that holds a payload gets at most one line, and whether it gets
one depends only on the payload and on the run that was shown last as finished.
Without markup in the message its line is the sentence about the payload if the
name of the message does not matter.  Otherwise, unless the object has a field
of a snapshot, it is the text of the message. -/
theorem line_of_summary_message
    (endpoints : FeedEndpoints)
    (options : StreamOptions)
    (debug detailsOpen : Bool)
    (steps : List Step)
    (readable : ((unstarted endpoints options debug detailsOpen).run steps).debug = false)
    (connection : UInt64)
    (message : SseMessage)
    (accepted : ((unstarted endpoints options debug detailsOpen).run steps).accepts
      ⟨.summary, connection, .message message⟩ = true)
    (single : '\n' ∉ message.data.toList)
    (payload : SummaryPayload)
    (decoded : SummaryPayload.parse message.event message.data = .ok payload)
    {σ : Type}
    (sink : Sink σ)
    (log : σ) :
    let coordinator := (unstarted endpoints options debug detailsOpen).run steps
    let line := String.ofList (dropReturn message.data.toList)
    (coordinator.handle sink styledRenderer ⟨.summary, connection, .message message⟩ log).2.1 =
        (if Reception.showsLine coordinator.lastFinished payload then
          sink.push (formatLine line) log
        else log) ∧
      ∃ object : Json.Object, Json.parse (Text.trimmed message.data) = .ok (.object object) ∧
        (Markup.plainText line = line →
          (SummaryPayload.namesEvent object = true ∨ Text.trimmed message.event = "" ∨
              Text.trimmed message.event = SummaryPayload.unnamed →
            formatLine line = describePayload payload) ∧
          (SummaryPayload.namesEvent object = false →
            object.hasKey "timeline" = false ∧ object.hasKey "running" = false →
            formatLine line = ⟨line, classify (Text.trimmed line)⟩)) := by
  intro coordinator line
  have finished : coordinator.LinesFinished :=
    (LinesFinished.unstarted endpoints options debug detailsOpen).run steps
  obtain ⟨object, whole, ofObject⟩ := SummaryPayload.exists_object_of_parse decoded
  have wholeLine : Json.parse (Text.trimmed line) = .ok (.object object) := by
    rw [trimmed_dropReturn message.data, whole]
  refine ⟨?_, object, whole, fun plain => ⟨?_, ?_⟩⟩
  · have quiet : coordinator.debug = false := readable
    rw [log_handle_message accepted (finished.lines .summary), quiet,
      Reception.actions_ofMessage_of_parse single decoded]
    split
    next => simp only [LogAction.performAll, List.foldl, LogAction.perform, styledRenderer,
      Bool.false_eq_true, if_false, line]
    next => rfl
  · intro nameless
    apply formatLine_of_ok plain wholeLine
    rw [SummaryPayload.ofObject_unnamed nameless, ofObject]
  · intro nameless fieldless
    exact formatLine_of_error plain wholeLine
      (SummaryPayload.ofObject_unnamed_eq_error nameless fieldless)

/-- An object that names its event is shown as the sentence about the event. -/
theorem line_of_named_event :
    let coordinator := (unstarted ({} : Settings).endpoints ({} : Settings).streamOptions
      false false).run [.command (.start 0)]
    let message : SseMessage :=
      ⟨"message", "\x7b\"event\":\"run:done\",\"added\":7,\"removed\":2\x7d\r"⟩
    coordinator.debug = false ∧
      coordinator.accepts ⟨.summary, 1, .message message⟩ = true ∧
      '\n' ∉ message.data.toList ∧
      ∃ payload, SummaryPayload.parse message.event message.data = .ok payload ∧
        describePayload payload = ⟨"✔ Sync run finished: +7 / -2", .success⟩ ∧
        ∀ (σ : Type) (sink : Sink σ) (log : σ),
          (coordinator.handle sink styledRenderer
            ⟨.summary, 1, .message message⟩ log).2.1 =
              sink.push ⟨"✔ Sync run finished: +7 / -2", .success⟩ log := by
  intro coordinator message
  have accepted : coordinator.accepts ⟨.summary, 1, .message message⟩ = true := by
    decide +kernel
  have single : '\n' ∉ message.data.toList := by decide +kernel
  have unnamed : Text.trimmed message.event = SummaryPayload.unnamed := by decide +kernel
  have plain : Markup.plainText (String.ofList (dropReturn message.data.toList)) =
      String.ofList (dropReturn message.data.toList) :=
    Markup.plainText_of_not_mem (by decide +kernel) (by decide +kernel)
  have described : (SummaryPayload.parse message.event message.data).toOption.map
      (fun payload => (describePayload payload, Reception.showsLine none payload)) =
        some (⟨"✔ Sync run finished: +7 / -2", .success⟩, true) := by
    decide +kernel
  cases decoded : SummaryPayload.parse message.event message.data with
  | error error =>
      rw [decoded] at described
      cases described
  | ok payload =>
      rw [decoded] at described
      obtain ⟨sentence, shown⟩ := Prod.mk.inj (Option.some.inj described)
      refine ⟨rfl, accepted, single, payload, rfl, sentence, ?_⟩
      intro σ sink log
      obtain ⟨result, object, _, readings⟩ := line_of_summary_message _ _ false false
        [.command (.start 0)] rfl 1 message accepted single payload decoded sink log
      have shownLine := ((readings plain).1 (.inr (.inr unnamed))).trans sentence
      rw [shownLine] at result
      exact result.trans (if_pos shown)

/-- An object that takes the name of its message is shown as it was sent,
although the payload has a sentence of its own. -/
theorem line_without_name_of_message :
    let coordinator := (unstarted ({} : Settings).endpoints ({} : Settings).streamOptions
      false false).run [.command (.start 0)]
    let message : SseMessage := ⟨"run:done", "\x7b\"added\":7,\"removed\":2\x7d"⟩
    coordinator.debug = false ∧
      coordinator.accepts ⟨.summary, 1, .message message⟩ = true ∧
      '\n' ∉ message.data.toList ∧
      (∃ payload, SummaryPayload.parse message.event message.data = .ok payload ∧
        describePayload payload = ⟨"✔ Sync run finished: +7 / -2", .success⟩) ∧
      (coordinator.handle Transcript.sink styledRenderer
        ⟨.summary, 1, .message message⟩ {}).2.1.lines =
          [⟨"\x7b\"added\":7,\"removed\":2\x7d", .plain⟩] := by
  intro coordinator message
  have described : (SummaryPayload.parse message.event message.data).toOption.map
      describePayload = some ⟨"✔ Sync run finished: +7 / -2", .success⟩ := by
    decide +kernel
  refine ⟨rfl, by decide +kernel, by decide +kernel, ?_, by decide +kernel⟩
  cases decoded : SummaryPayload.parse message.event message.data with
  | error error =>
      rw [decoded] at described
      cases described
  | ok payload =>
      rw [decoded] at described
      exact ⟨payload, rfl, Option.some.inj described⟩

end Coordinator
end Feed
end SyncWatch
