import SyncWatch.Proofs.Feed.FinishedLines
import SyncWatch.Proofs.Log.LineEnds
import SyncWatch.Proofs.Progress.PayloadText
import SyncWatch.Settings.Feeds

/-!
# Messages of the summary feed

A message of the summary feed is cut into lines before it is decoded, and each
line is decoded on its own.  So the payloads of a message are those of its
lines, and a message gives what it holds as a whole when the braces around it
stand in one line.
-/

namespace SyncWatch

open Progress

namespace Feed

open Log

namespace SseMessage

theorem isSentinel_chunk (message : SseMessage) :
    isSentinel message.chunk = isSentinel message.data.toList := by
  rw [isSentinel, isSentinel, chunk, Text.trim_concat_of_isBlank (by decide)]

/-- A message that is the reserved text asks for an empty log. -/
theorem tokens_of_isSentinel
    {message : SseMessage}
    (reserved : isSentinel message.data.toList = true) :
    message.tokens = [.clear] := by
  rw [← message.isSentinel_chunk] at reserved
  exact LineAssembler.tokens_of_isSentinel reserved {}

/-- Every line of another message is finished, the last one too. -/
theorem tokens_of_not_isSentinel
    {message : SseMessage}
    (plain : isSentinel message.data.toList = false) :
    message.tokens = (message.data.toList.splitOn '\n').map LogToken.ofLine := by
  rw [← message.isSentinel_chunk] at plain
  rw [tokens, LineAssembler.tokens_of_not_isSentinel plain, List.nil_append, tokensOfText,
    chunk, List.splitOn_append_cons_self, List.splitOn_nil, List.dropLast_concat]

/-- The tokens of a message are those of the pieces between its line feeds, each
without one carriage return at its end, unless it is the reserved text. -/
theorem tokens_eq (message : SseMessage) :
    message.tokens =
      if Text.trim message.data.toList = "::CLEAR::".toList then [.clear]
      else
        (message.data.toList.splitOn '\n').map fun piece =>
          let content := if piece.getLast? = some '\r' then piece.dropLast else piece
          if Text.trim content = "::CLEAR::".toList then .clear
          else .line (String.ofList content) := by
  split
  next reserved =>
    exact tokens_of_isSentinel (beq_iff_eq.mpr reserved)
  next plain =>
    rw [tokens_of_not_isSentinel (beq_eq_false_iff_ne.mpr plain)]
    congr 1
    funext piece
    simp only [LogToken.ofLine, dropReturn, isSentinel, beq_iff_eq, sentinel]

end SseMessage

namespace Reception

variable {name text : String} {payload : SummaryPayload}

/-- A line that holds a payload is not blank and does what the payload does. -/
theorem ofSummaryToken_of_ok
    (decoded : SummaryPayload.parse name text = .ok payload)
    (debug : Bool)
    (lastFinished : Option String) :
    ofSummaryToken debug name lastFinished (.line text) =
      ofPayload debug lastFinished text payload := by
  have visible : Text.isBlankText text = false := by
    obtain ⟨inside, braces⟩ := SummaryPayload.exists_trim_eq_braces decoded
    rw [Bool.eq_false_iff, ne_eq, Text.isBlankText_iff, braces]
    exact List.cons_ne_nil _ _
  simp only [ofSummaryToken, visible, decoded, Bool.false_eq_true, if_false]

/-- A line that holds no payload does nothing, be it blank or malformed. -/
theorem ofSummaryToken_of_error
    {error : PayloadError}
    (rejected : SummaryPayload.parse name text = .error error)
    (debug : Bool)
    (lastFinished : Option String) :
    ofSummaryToken debug name lastFinished (.line text) = { lastFinished } := by
  simp only [ofSummaryToken, rejected, ite_self]

theorem payloads_ofPayload
    (debug : Bool)
    (lastFinished : Option String)
    (text : String)
    (payload : SummaryPayload) :
    (ofPayload debug lastFinished text payload).payloads = [payload] := by
  cases payload with
  | event event => rfl
  | snapshot summary =>
      rw [ofPayload]
      split <;> rfl

/-- The token of a finished line tells what the line holds. -/
theorem payloadsOfToken_ofLine (name : String) (line : List Char) :
    payloadsOfToken .summary name (LogToken.ofLine line) =
      (SummaryPayload.ofLine? name line).toList := by
  have same : SummaryPayload.ofLine? name (dropReturn line) =
      SummaryPayload.ofLine? name line :=
    SummaryPayload.ofLine?_congr (trim_dropReturn line)
  rw [← same, LogToken.ofLine]
  cases reserved : isSentinel (dropReturn line) with
  | true =>
      rw [SummaryPayload.ofLine?_of_isSentinel reserved]
      rfl
  | false =>
      simp only [Bool.false_eq_true, if_false, payloadsOfToken, ofToken, SummaryPayload.ofLine?]
      cases decoded : SummaryPayload.parse name (String.ofList (dropReturn line)) with
      | error error =>
          rw [ofSummaryToken_of_error decoded]
          rfl
      | ok payload =>
          rw [ofSummaryToken_of_ok decoded, payloads_ofPayload]
          rfl

/-- A message of the summary feed tells what its lines hold. -/
theorem payloadsOfMessage_summary (message : SseMessage) :
    payloadsOfMessage .summary message =
      SummaryPayload.ofLines message.event message.data.toList := by
  rw [payloadsOfMessage]
  cases reserved : isSentinel message.data.toList with
  | true =>
      -- The only line of the message that is not blank holds no payload.
      have text : Text.trim message.data.toList = sentinel.toList := by
        rw [isSentinel, beq_iff_eq] at reserved
        exact reserved
      rw [SseMessage.tokens_of_isSentinel reserved, ← SummaryPayload.ofLines_trim, text,
        SummaryPayload.ofLines_of_not_mem (by decide),
        SummaryPayload.ofLine?_of_isSentinel (by decide)]
      rfl
  | false =>
      rw [SseMessage.tokens_of_not_isSentinel reserved, List.flatMap_map,
        SummaryPayload.ofLines, List.filterMap_eq_flatMap_toList]
      simp only [payloadsOfToken_ofLine]

end Reception

namespace Coordinator

/-- A message that follows no unfinished line tells what it tells by itself. -/
theorem payloads_handle_message
    {σ : Type}
    {coordinator : Coordinator}
    {feed : FeedKind}
    {connection : UInt64}
    {message : SseMessage}
    (accepted : coordinator.accepts ⟨feed, connection, .message message⟩ = true)
    (fresh : coordinator.lines feed = {})
    (sink : Sink σ)
    (renderer : Renderer)
    (log : σ) :
    (coordinator.handle sink renderer ⟨feed, connection, .message message⟩ log).2.2 =
      Reception.payloadsOfMessage feed message := by
  rw [accepts, beq_iff_eq] at accepted
  rw [handle, receive_message accepted fresh]
  exact Reception.payloads_ofTokens ..

/-- In every run an accepted message of the summary feed gives the payloads of
its lines, each decoded on its own, whatever the log and the form in which
lines are shown.  When the message as a whole holds a payload whose braces
stand in one line, it gives this payload and no other. -/
theorem payloads_of_summary_message
    (endpoints : FeedEndpoints)
    (options : StreamOptions)
    (debug detailsOpen : Bool)
    (steps : List Step)
    (connection : UInt64)
    (message : SseMessage)
    (accepted : ((unstarted endpoints options debug detailsOpen).run steps).accepts
      ⟨.summary, connection, .message message⟩ = true)
    {σ : Type}
    (sink : Sink σ)
    (renderer : Renderer)
    (log : σ) :
    let coordinator := (unstarted endpoints options debug detailsOpen).run steps
    let payloads :=
      (coordinator.handle sink renderer ⟨.summary, connection, .message message⟩ log).2.2
    payloads = (message.data.toList.splitOn '\n').filterMap
        (fun line => (SummaryPayload.parse message.event (String.ofList line)).toOption) ∧
      ∀ payload, SummaryPayload.parse message.event message.data = .ok payload →
        '\n' ∉ Text.trim message.data.toList → payloads = [payload] := by
  intro coordinator payloads
  have finished : coordinator.LinesFinished :=
    (LinesFinished.unstarted endpoints options debug detailsOpen).run steps
  have ofLines : payloads = SummaryPayload.ofLines message.event message.data.toList :=
    (payloads_handle_message accepted (finished.lines .summary) sink renderer log).trans
      (Reception.payloadsOfMessage_summary message)
  refine ⟨ofLines, ?_⟩
  intro payload decoded single
  rw [ofLines]
  exact SummaryPayload.ofLines_eq_singleton decoded single

/-- White space around a message does not matter, be it line feeds. -/
theorem payload_between_blank_lines :
    let coordinator := (unstarted ({} : Settings).endpoints ({} : Settings).streamOptions
      false false).run [.command (.start 0)]
    let message : SseMessage :=
      ⟨"apply:add:progress", "\n \x7b\"done\":1,\t\"total\":2\x7d\r\n\n"⟩
    coordinator.accepts ⟨.summary, 1, .message message⟩ = true ∧
      ∃ payload, SummaryPayload.parse message.event message.data = .ok payload ∧
        '\n' ∉ Text.trim message.data.toList ∧
        ∀ (σ : Type) (sink : Sink σ) (renderer : Renderer) (log : σ),
          (coordinator.handle sink renderer ⟨.summary, 1, .message message⟩ log).2.2 =
            [payload] := by
  intro coordinator message
  have accepted : coordinator.accepts ⟨.summary, 1, .message message⟩ = true := by
    decide +kernel
  have single : '\n' ∉ Text.trim message.data.toList := by decide +kernel
  have holds : (SummaryPayload.parse message.event message.data).toOption.isSome = true := by
    decide +kernel
  cases decoded : SummaryPayload.parse message.event message.data with
  | error error =>
      rw [decoded] at holds
      cases holds
  | ok payload =>
      refine ⟨accepted, payload, rfl, single, ?_⟩
      intro σ sink renderer log
      exact (payloads_of_summary_message _ _ false false [.command (.start 0)] 1 message
        accepted sink renderer log).2 payload decoded single

/-- A message whose object takes several lines gives nothing, although it holds
a payload as a whole. -/
theorem payload_over_several_lines_is_lost :
    let coordinator := (unstarted ({} : Settings).endpoints ({} : Settings).streamOptions
      false false).run [.command (.start 0)]
    let message : SseMessage :=
      ⟨"apply:add:progress", "\x7b\n\"done\":1,\"total\":2\n\x7d"⟩
    coordinator.accepts ⟨.summary, 1, .message message⟩ = true ∧
      ∃ payload, SummaryPayload.parse message.event message.data = .ok payload ∧
        ∀ (σ : Type) (sink : Sink σ) (renderer : Renderer) (log : σ),
          (coordinator.handle sink renderer ⟨.summary, 1, .message message⟩ log).2.2 = [] := by
  intro coordinator message
  have accepted : coordinator.accepts ⟨.summary, 1, .message message⟩ = true := by
    decide +kernel
  have fresh : coordinator.lines .summary = {} := rfl
  have holds : (SummaryPayload.parse message.event message.data).toOption.isSome = true := by
    decide +kernel
  have nothing :
      (SummaryPayload.ofLines message.event message.data.toList).isEmpty = true := by
    decide +kernel
  cases decoded : SummaryPayload.parse message.event message.data with
  | error error =>
      rw [decoded] at holds
      cases holds
  | ok payload =>
      refine ⟨accepted, payload, rfl, ?_⟩
      intro σ sink renderer log
      rw [payloads_handle_message accepted fresh, Reception.payloadsOfMessage_summary]
      exact List.isEmpty_iff.mp nothing

end Coordinator
end Feed
end SyncWatch
