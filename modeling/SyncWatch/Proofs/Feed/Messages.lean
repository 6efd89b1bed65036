import SyncWatch.Proofs.Feed.Run

/-!
# Messages taken one by one

A message ends its last line, so no unfinished line is left after it and the
next one starts afresh.  What a message tells about progress depends neither on
the form in which lines are shown nor on the run that was shown last.
-/

namespace SyncWatch

open Progress

namespace Log

/-- A text that ends with a line feed has a finished line and no other. -/
theorem splitLines_append_newline (text : List Char) :
    (splitLines (text ++ ['\n'])).1 ≠ [] ∧ (splitLines (text ++ ['\n'])).2 = [] := by
  induction text with
  | nil => simp [splitLines]
  | cons char rest inductionHypothesis =>
      obtain ⟨finished, unfinished⟩ := inductionHypothesis
      by_cases newline : char = '\n'
      · simp [splitLines, newline, unfinished]
      · rcases equal : splitLines (rest ++ ['\n']) with ⟨lines, tail⟩
        rw [equal] at finished unfinished
        cases lines with
        | nil => exact absurd rfl finished
        | cons line lines => simpa [splitLines, newline, equal] using unfinished

/-- A piece of text that ends its last line leaves no unfinished line. -/
theorem LineAssembler.push_append_newline
    (assembler : LineAssembler)
    (text : List Char) :
    assembler.push (text ++ ['\n']) = {} := by
  rw [push, tokenize]
  split
  · rfl
  · rw [← List.append_assoc]
    simp only [(splitLines_append_newline _).2]

end Log

namespace Feed

open Log

namespace SseMessage

/-- The piece of text that a message is. -/
def chunk (message : SseMessage) : List Char :=
  message.data.toList ++ ['\n']

/-- The log tokens of a message that follows no unfinished line. -/
def tokens (message : SseMessage) : List LogToken :=
  LineAssembler.tokens {} message.chunk

end SseMessage

namespace Reception

/-- What a token tells about progress. -/
def payloadsOfToken (feed : FeedKind) (name : String) (token : LogToken) :
    List SummaryPayload :=
  (ofToken feed false name none token).payloads

/-- Whether lines are shown in debugging mode, and which run was shown last,
does not matter for progress. -/
theorem payloads_ofToken
    (feed : FeedKind)
    (debug : Bool)
    (name : String)
    (lastFinished : Option String)
    (token : LogToken) :
    (ofToken feed debug name lastFinished token).payloads =
      payloadsOfToken feed name token := by
  cases feed with
  | verbose => cases token <;> rfl
  | summary =>
      cases token with
      | clear => rfl
      | line text =>
          by_cases blank : Text.isBlankText text = true
          · simp [payloadsOfToken, ofToken, ofSummaryToken, blank]
          · cases parsed : SummaryPayload.parse name text with
            | error error => simp [payloadsOfToken, ofToken, ofSummaryToken, blank, parsed]
            | ok payload =>
                simp only [payloadsOfToken, ofToken, ofSummaryToken, blank, parsed,
                  Bool.false_eq_true, if_false]
                cases payload with
                | event event => rfl
                | snapshot summary =>
                    simp only [ofPayload]
                    split <;> split <;> rfl

/-- What tokens tell about progress, one after the other. -/
theorem payloads_ofTokens
    (feed : FeedKind)
    (debug : Bool)
    (name : String)
    (lastFinished : Option String)
    (tokens : List LogToken) :
    (ofTokens feed debug name lastFinished tokens).payloads =
      tokens.flatMap (payloadsOfToken feed name) := by
  induction tokens generalizing lastFinished with
  | nil => rfl
  | cons token rest inductionHypothesis =>
      rw [ofTokens, followedBy, List.flatMap_cons]
      simp only [payloads_ofToken, inductionHypothesis]

/-- What a message does that follows no unfinished line. -/
def ofMessage
    (feed : FeedKind)
    (debug : Bool)
    (lastFinished : Option String)
    (message : SseMessage) : Reception :=
  ofTokens feed debug message.event lastFinished message.tokens

/-- What messages do, one after the other. -/
def ofMessages (feed : FeedKind) (debug : Bool) :
    Option String → List SseMessage → Reception
  | lastFinished, [] => { lastFinished }
  | lastFinished, message :: rest =>
    let first := ofMessage feed debug lastFinished message
    first.followedBy (ofMessages feed debug first.lastFinished rest)

/-- What a message tells about progress. -/
def payloadsOfMessage (feed : FeedKind) (message : SseMessage) : List SummaryPayload :=
  message.tokens.flatMap (payloadsOfToken feed message.event)

/-- What messages tell about progress is what each of them tells. -/
theorem payloads_ofMessages
    (feed : FeedKind)
    (debug : Bool)
    (lastFinished : Option String)
    (messages : List SseMessage) :
    (ofMessages feed debug lastFinished messages).payloads =
      messages.flatMap (payloadsOfMessage feed) := by
  induction messages generalizing lastFinished with
  | nil => rfl
  | cons message rest inductionHypothesis =>
      rw [ofMessages, followedBy, List.flatMap_cons]
      simp only [ofMessage, payloads_ofTokens, payloadsOfMessage, inductionHypothesis]

end Reception

namespace Coordinator

/-- A message of the current connection that follows no unfinished line leaves
none, and is remembered only by the run that it shows as finished. -/
theorem receive_message
    {coordinator : Coordinator}
    {feed : FeedKind}
    {connection : UInt64}
    (current : (coordinator.stream feed).connectionId = some connection)
    (fresh : coordinator.lines feed = {})
    (message : SseMessage) :
    let reception :=
      Reception.ofMessage feed coordinator.debug coordinator.lastFinished message
    coordinator.receive ⟨feed, connection, .message message⟩ =
      ({ coordinator with lastFinished := reception.lastFinished }, reception) := by
  have accepted : coordinator.accepts ⟨feed, connection, .message message⟩ = true := by
    simp [accepts, current]
  have finished : coordinator.withLines feed
      ((coordinator.lines feed).push (message.data.toList ++ ['\n'])) = coordinator := by
    rw [LineAssembler.push_append_newline, ← fresh, withLines_lines]
  simp only [receive, accepted, if_true, receiveMessage]
  rw [finished, fresh]
  rfl

/-- A message that follows no unfinished line leaves none. -/
theorem lines_receive_message
    {coordinator : Coordinator}
    {feed : FeedKind}
    {connection : UInt64}
    (current : (coordinator.stream feed).connectionId = some connection)
    (fresh : coordinator.lines feed = {})
    (message : SseMessage) :
    (coordinator.receive ⟨feed, connection, .message message⟩).1.lines feed = {} := by
  rw [receive_message current fresh message]
  cases feed <;> exact fresh

end Coordinator
end Feed
end SyncWatch
