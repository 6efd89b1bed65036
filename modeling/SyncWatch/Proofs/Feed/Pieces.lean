import SyncWatch.Proofs.Feed.SummaryMessages
import SyncWatch.Proofs.Log.Contents

/-!
# Messages that do not run into each other

Between two steps no feed has an unfinished line, so a message stands for
itself.  One that is not the reserved text as a whole does what the pieces
between its line feeds do, sent one after the other under the same name.  The
summary feed skips a piece that is blank or malformed, and what it makes of the
other pieces does not depend on it.
-/

namespace SyncWatch
namespace Feed

open Progress Log

namespace SseMessage

/-- A piece of the text of a message, as a message of the same name. -/
def ofPiece (name : String) (piece : List Char) : SseMessage :=
  ⟨name, String.ofList piece⟩

/-- The pieces of a message between its line feeds. -/
def pieces (message : SseMessage) : List SseMessage :=
  (message.data.toList.splitOn '\n').map (ofPiece message.event)

/-- Whether the summary feed skips a message: it does not ask for an empty log
and it is blank or malformed. -/
def isSkipped (message : SseMessage) : Bool :=
  !isSentinel message.data.toList &&
    (Text.isBlankText message.data ||
      (SummaryPayload.parse message.event message.data).toOption.isNone)

/-- A piece without line feeds gives one token. -/
theorem tokens_ofPiece
    {piece : List Char}
    (single : '\n' ∉ piece)
    (name : String) :
    (ofPiece name piece).tokens = [LogToken.ofLine piece] := by
  have data : (ofPiece name piece).data.toList = piece := String.toList_ofList
  cases reserved : isSentinel piece with
  | true =>
      have whole : isSentinel (ofPiece name piece).data.toList = true := by rw [data, reserved]
      rw [tokens_of_isSentinel whole, LogToken.ofLine, isSentinel_dropReturn, reserved]
      rfl
  | false =>
      have whole : isSentinel (ofPiece name piece).data.toList = false := by rw [data, reserved]
      rw [tokens_of_not_isSentinel whole, data, List.splitOn_eq_singleton single]
      rfl

end SseMessage

namespace Reception

@[simp] theorem nothing_followedBy (reception : Reception) (known : Option String) :
    ({ lastFinished := known } : Reception).followedBy reception = reception := rfl

theorem ofTokens_singleton
    (feed : FeedKind)
    (debug : Bool)
    (name : String)
    (known : Option String)
    (token : LogToken) :
    ofTokens feed debug name known [token] = ofToken feed debug name known token := by
  simp [ofTokens, followedBy]

/-- Pieces in one line each, sent as messages, do what their tokens do. -/
theorem ofMessages_map_ofPiece
    {lines : List (List Char)}
    (single : ∀ piece ∈ lines, '\n' ∉ piece)
    (feed : FeedKind)
    (debug : Bool)
    (name : String)
    (known : Option String) :
    ofMessages feed debug known (lines.map (SseMessage.ofPiece name)) =
      ofTokens feed debug name known (lines.map LogToken.ofLine) := by
  induction lines generalizing known with
  | nil => rfl
  | cons piece rest inductionHypothesis =>
      rw [List.forall_mem_cons] at single
      have first : ofMessage feed debug known (SseMessage.ofPiece name piece) =
          ofToken feed debug name known (LogToken.ofLine piece) := by
        rw [ofMessage, SseMessage.tokens_ofPiece single.1]
        exact ofTokens_singleton feed debug name known _
      rw [List.map_cons, List.map_cons, ofMessages, ofTokens, first,
        inductionHypothesis single.2]

/-- A message does what its pieces do. -/
theorem ofMessages_pieces
    {message : SseMessage}
    (plain : isSentinel message.data.toList = false)
    (feed : FeedKind)
    (debug : Bool)
    (known : Option String) :
    ofMessages feed debug known message.pieces = ofMessage feed debug known message := by
  rw [ofMessage, SseMessage.tokens_of_not_isSentinel plain]
  exact ofMessages_map_ofPiece (fun _ member => newline_not_mem_of_mem_splitOn member)
    feed debug message.event known

/-- A skipped piece does nothing. -/
theorem ofMessage_of_isSkipped
    {name : String}
    {piece : List Char}
    (single : '\n' ∉ piece)
    (skipped : (SseMessage.ofPiece name piece).isSkipped = true)
    (debug : Bool)
    (known : Option String) :
    ofMessage .summary debug known (SseMessage.ofPiece name piece) = { lastFinished := known } := by
  simp only [SseMessage.isSkipped, SseMessage.ofPiece, String.toList_ofList, Bool.and_eq_true,
    Bool.not_eq_true', Bool.or_eq_true] at skipped
  obtain ⟨plain, unread⟩ := skipped
  have empty : SummaryPayload.ofLine? name (dropReturn piece) = none := by
    rw [SummaryPayload.ofLine?_congr (trim_dropReturn piece)]
    rcases unread with blank | malformed
    · rw [Text.isBlankText_iff, String.toList_ofList] at blank
      exact SummaryPayload.ofLine?_of_blank blank
    · exact Option.isNone_iff_eq_none.mp malformed
  rw [ofMessage, SseMessage.tokens_ofPiece single, ofTokens_singleton, LogToken.ofLine,
    isSentinel_dropReturn, plain]
  cases decoded : SummaryPayload.parse name (String.ofList (dropReturn piece)) with
  | ok payload =>
      rw [SummaryPayload.ofLine?, decoded] at empty
      cases empty
  | error error => exact ofSummaryToken_of_error decoded debug known

/-- Pieces that are skipped may as well not be sent. -/
theorem ofMessages_filter_isSkipped
    {lines : List (List Char)}
    (single : ∀ piece ∈ lines, '\n' ∉ piece)
    (debug : Bool)
    (name : String)
    (known : Option String) :
    ofMessages .summary debug known
        ((lines.map (SseMessage.ofPiece name)).filter fun piece => !piece.isSkipped) =
      ofMessages .summary debug known (lines.map (SseMessage.ofPiece name)) := by
  induction lines generalizing known with
  | nil => rfl
  | cons piece rest inductionHypothesis =>
      rw [List.forall_mem_cons] at single
      have others := inductionHypothesis single.2
      rw [List.map_cons, List.filter_cons, ofMessages]
      cases skipped : (SseMessage.ofPiece name piece).isSkipped with
      | true =>
          rw [ofMessage_of_isSkipped single.1 skipped]
          simp [others]
      | false => simp [ofMessages, others]

end Reception

namespace Coordinator

/-- Handle events one after the other, with the payloads of all of them. -/
def handleAll {σ : Type} (sink : Sink σ) (renderer : Renderer) :
    Coordinator → List StreamEvent → σ → Coordinator × σ × List SummaryPayload
  | coordinator, [], log => (coordinator, log, [])
  | coordinator, event :: rest, log =>
    let first := coordinator.handle sink renderer event log
    let others := handleAll sink renderer first.1 rest first.2.1
    (others.1, others.2.1, first.2.2 ++ others.2.2)

/-- Messages of the current connection that follow no unfinished line do what
they do in themselves. -/
theorem handleAll_messages
    {σ : Type}
    {coordinator : Coordinator}
    {feed : FeedKind}
    {connection : UInt64}
    (current : (coordinator.stream feed).connectionId = some connection)
    (fresh : coordinator.lines feed = {})
    (sink : Sink σ)
    (renderer : Renderer)
    (messages : List SseMessage)
    (log : σ) :
    let reception :=
      Reception.ofMessages feed coordinator.debug coordinator.lastFinished messages
    coordinator.handleAll sink renderer
        (messages.map fun message => ⟨feed, connection, .message message⟩) log =
      ({ coordinator with lastFinished := reception.lastFinished },
        LogAction.performAll sink renderer coordinator.debug reception.actions log,
        reception.payloads) := by
  induction messages generalizing coordinator log with
  | nil => rfl
  | cons message rest inductionHypothesis =>
      have received := receive_message current fresh message
      have stillCurrent : ((coordinator.receive
          ⟨feed, connection, .message message⟩).1.stream feed).connectionId =
            some connection := by
        rw [stream_receive]
        exact current
      have others (log : σ) := inductionHypothesis stillCurrent
        (lines_receive_message current fresh message) log
      rw [received] at others
      simp only [List.map_cons, handleAll, handle, received, others, Reception.ofMessages,
        Reception.followedBy, LogAction.performAll_append]

/-- In every run no feed has an unfinished line between two steps.  An accepted
message that is not the reserved text as a whole changes the feeds and the log,
and tells about progress, what its pieces between line feeds do that are handled
one after the other as messages of the same name.  On the summary feed the
pieces that are blank or malformed may be left out. -/
theorem message_as_its_pieces
    (endpoints : FeedEndpoints)
    (options : StreamOptions)
    (debug detailsOpen : Bool)
    (steps : List Step) :
    let coordinator := (unstarted endpoints options debug detailsOpen).run steps
    (coordinator.verboseLines.pending = [] ∧ coordinator.summaryLines.pending = []) ∧
      ∀ (feed : FeedKind) (connection : UInt64) (message : SseMessage),
        let event (sent : SseMessage) : StreamEvent := ⟨feed, connection, .message sent⟩
        coordinator.accepts (event message) = true →
        Text.trim message.data.toList ≠ sentinel.toList →
        ∀ (σ : Type) (sink : Sink σ) (renderer : Renderer) (log : σ),
          let handled := coordinator.handle sink renderer (event message) log
          coordinator.handleAll sink renderer (message.pieces.map event) log = handled ∧
            (feed = .summary →
              coordinator.handleAll sink renderer
                ((message.pieces.filter fun piece => !piece.isSkipped).map event) log =
                  handled) := by
  intro coordinator
  have finished : coordinator.LinesFinished :=
    (LinesFinished.unstarted endpoints options debug detailsOpen).run steps
  refine ⟨⟨?_, ?_⟩, ?_⟩
  · rw [finished.verbose]
  · rw [finished.summary]
  · intro feed connection message event accepted unreserved σ sink renderer log handled
    have current : (coordinator.stream feed).connectionId = some connection := by
      rw [accepts, beq_iff_eq] at accepted
      exact accepted
    have fresh : coordinator.lines feed = {} := finished.lines feed
    have plain : isSentinel message.data.toList = false := by
      rw [isSentinel, beq_eq_false_iff_ne]
      exact unreserved
    have whole : handled =
        coordinator.handleAll sink renderer (message.pieces.map event) log := by
      have received := receive_message current fresh message
      rw [handleAll_messages current fresh, Reception.ofMessages_pieces plain]
      simp only [handled, event, handle, received]
    refine ⟨whole.symm, ?_⟩
    rintro rfl
    have single : ∀ piece ∈ message.data.toList.splitOn '\n', '\n' ∉ piece :=
      fun _ member => newline_not_mem_of_mem_splitOn member
    rw [whole, handleAll_messages current fresh, handleAll_messages current fresh,
      SseMessage.pieces, Reception.ofMessages_filter_isSkipped single]

/-- Of a message with a clear, a blank line, a malformed line and an event only
the clear and the event count. -/
theorem pieces_of_mixed_message :
    let coordinator := (unstarted ({} : Settings).endpoints ({} : Settings).streamOptions
      false false).run [.command (.start 0)]
    let event (data : String) : StreamEvent := ⟨.summary, 1, .message ⟨"message", data⟩⟩
    let mixed := " ::CLEAR::\r\n \n\x7b\"event\":\n\x7b\"event\":\"plan\"\x7d\n"
    coordinator.accepts (event mixed) = true ∧
      Text.trim mixed.toList ≠ sentinel.toList ∧
      ∀ (σ : Type) (sink : Sink σ) (renderer : Renderer) (log : σ),
        coordinator.handleAll sink renderer
            [event " ::CLEAR::\r", event "\x7b\"event\":\"plan\"\x7d"] log =
          coordinator.handle sink renderer (event mixed) log := by
  intro coordinator event mixed
  have accepted : coordinator.accepts (event mixed) = true := by decide +kernel
  have unreserved : Text.trim mixed.toList ≠ sentinel.toList := by decide +kernel
  have read : ((⟨"message", mixed⟩ : SseMessage).pieces.filter fun piece => !piece.isSkipped) =
      [⟨"message", " ::CLEAR::\r"⟩, ⟨"message", "\x7b\"event\":\"plan\"\x7d"⟩] := by
    decide +kernel
  refine ⟨accepted, unreserved, ?_⟩
  intro σ sink renderer log
  have settled := ((message_as_its_pieces _ _ false false [.command (.start 0)]).2 .summary 1
    ⟨"message", mixed⟩ accepted unreserved σ sink renderer log).2 rfl
  rw [read] at settled
  exact settled

end Coordinator
end Feed
end SyncWatch
