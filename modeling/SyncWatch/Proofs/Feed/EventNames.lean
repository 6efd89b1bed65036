import SyncWatch.Proofs.Feed.FinishedRuns
import SyncWatch.Proofs.Progress.EventNames
import SyncWatch.Proofs.Progress.RoundTrip

/-!
# Names of events in the compact view

A token of the summary feed that holds an event gets its line in debugging mode,
or when the event is worth one.  This depends on the name of the event through
its normal form alone, so a feed may send its events under their normal names
and gets the same progress and a line for the same events.
-/

namespace SyncWatch
namespace Feed

open Progress Log

namespace Reception

@[simp] theorem isWorthLine_withNormalName (event : SyncEvent) :
    isWorthLine event.withNormalName = isWorthLine event := by
  rw [isWorthLine, isWorthLine, SyncEvent.kind_withNormalName, SyncEvent.name_withNormalName,
    normalName_normalName]

variable {name text : String} {event : SyncEvent}

/-- An event is told to the progress, and it leaves what is known of finished
runs as it is. -/
theorem ofToken_event
    (decoded : SummaryPayload.parse name text = .ok (.event event))
    (debug : Bool)
    (known : Option String) :
    ofToken .summary debug name known (.line text) =
      { actions := if debug || isWorthLine event then [.append text] else []
        payloads := [.event event]
        lastFinished := known } := by
  rw [ofToken, ofSummaryToken_of_ok decoded]
  rfl

/-- The tokens around an event ask of the log what they ask without it. -/
theorem actions_ofTokens_event
    (decoded : SummaryPayload.parse name text = .ok (.event event))
    (debug : Bool)
    (known : Option String)
    (before after : List LogToken) :
    let asked := ofTokens .summary debug name
    let earlier := asked known before
    (asked known (before ++ .line text :: after)).actions =
      earlier.actions ++
        ((if debug || isWorthLine event then [.append text] else []) ++
          (asked earlier.lastFinished after).actions) := by
  intro asked earlier
  simp only [asked, ofTokens_append, ofTokens, ofToken_event decoded, followedBy, earlier]

end Reception

namespace Coordinator

/-- A line of a message that holds an event is shown between what the tokens
before and behind it ask of the log, if it is shown. -/
theorem log_handle_event
    {coordinator : Coordinator}
    {connection : UInt64}
    {message : SseMessage}
    (accepted : coordinator.accepts ⟨.summary, connection, .message message⟩ = true)
    {before after : List LogToken}
    {text : String}
    (tokens : (coordinator.lines .summary).tokens message.chunk = before ++ .line text :: after)
    {event : SyncEvent}
    (decoded : SummaryPayload.parse message.event text = .ok (.event event))
    {σ : Type}
    (sink : Sink σ)
    (renderer : Renderer)
    (log : σ) :
    let debug := coordinator.debug
    let asked := Reception.ofTokens .summary debug message.event
    let earlier := asked coordinator.lastFinished before
    let later := asked earlier.lastFinished after
    let shown := LogAction.performAll sink renderer debug earlier.actions log
    (coordinator.handle sink renderer ⟨.summary, connection, .message message⟩ log).2.1 =
      LogAction.performAll sink renderer debug later.actions
        (if debug || Reception.isWorthLine event then sink.push (renderer debug text) shown
          else shown) := by
  intro debug asked earlier later shown
  have received :
      (coordinator.receive ⟨.summary, connection, .message message⟩).2 =
        asked coordinator.lastFinished (before ++ .line text :: after) := by
    rw [receive, if_pos accepted, ← tokens]
    rfl
  rw [handle, received, Reception.actions_ofTokens_event decoded,
    LogAction.performAll_append, LogAction.performAll_append]
  change LogAction.performAll sink renderer debug later.actions
    (LogAction.performAll sink renderer debug _ shown) = _
  split <;> rfl

/-- A normal name is its own normal form, and an event is the same under its
normal name: it is of the same kind, does the same to every state of progress
and to every display, and is worth a line in the compact view or not.  So
whatever the state of the feeds, a token that holds it under either name gets its
line between those of the other tokens under the same condition. -/
theorem events_mean_the_same_under_normal_names :
    (∀ name : String, normalName (normalName name) = normalName name) ∧
      ∀ event : SyncEvent,
        event.withNormalName.kind = event.kind ∧
          (∀ state : ProgressState,
            state.afterEvent? event.withNormalName = state.afterEvent? event) ∧
          (∀ monitor : ProgressMonitor,
            monitor.apply (.event event.withNormalName) = monitor.apply (.event event)) ∧
          Reception.isWorthLine event.withNormalName = Reception.isWorthLine event ∧
          ∀ held : SyncEvent, held = event ∨ held = event.withNormalName →
            ∀ (coordinator : Coordinator) (connection : UInt64) (message : SseMessage),
              coordinator.accepts ⟨.summary, connection, .message message⟩ = true →
              ∀ (before after : List LogToken) (text : String),
                (coordinator.lines .summary).tokens message.chunk =
                  before ++ .line text :: after →
                SummaryPayload.parse message.event text = .ok (.event held) →
                ∀ (σ : Type) (sink : Sink σ) (renderer : Renderer) (log : σ),
                  let debug := coordinator.debug
                  let asked := Reception.ofTokens .summary debug message.event
                  let earlier := asked coordinator.lastFinished before
                  let later := asked earlier.lastFinished after
                  let shown := LogAction.performAll sink renderer debug earlier.actions log
                  (coordinator.handle sink renderer
                      ⟨.summary, connection, .message message⟩ log).2.1 =
                    LogAction.performAll sink renderer debug later.actions
                      (if debug || Reception.isWorthLine event then
                        sink.push (renderer debug text) shown
                      else shown) := by
  refine ⟨normalName_normalName, fun event => ⟨event.kind_withNormalName, ?_, ?_,
    Reception.isWorthLine_withNormalName event, ?_⟩⟩
  · exact fun state => state.afterEvent?_withNormalName event
  · exact fun monitor => monitor.apply_withNormalName event
  · intro held names coordinator connection message accepted before after text tokens decoded
      σ sink renderer log
    have worth : Reception.isWorthLine held = Reception.isWorthLine event := by
      rcases names with rfl | rfl
      · rfl
      · exact Reception.isWorthLine_withNormalName event
    rw [← worth]
    exact log_handle_event accepted tokens decoded sink renderer log

/-- A message for debugging is worth a line only by its name, whose capitals and
white space do not matter. -/
theorem line_of_debugging_message :
    let coordinator := (unstarted ({} : Settings).endpoints ({} : Settings).streamOptions
      false false).run [.command (.start 0)]
    let event : SyncEvent := { name := "\u2003DeBug\t", message := some "ready" }
    event.withNormalName.name = "debug" ∧ event.withNormalName.kind = .other ∧
      ∀ held : SyncEvent, held = event ∨ held = event.withNormalName →
        let message : SseMessage := ⟨"message", "starting\n" ++ held.text⟩
        coordinator.accepts ⟨.summary, 1, .message message⟩ = true ∧
          (coordinator.lines .summary).tokens message.chunk =
            [.line "starting"] ++ .line held.text :: [] ∧
          SummaryPayload.parse message.event held.text = .ok (.event held) ∧
          ∀ (σ : Type) (sink : Sink σ) (renderer : Renderer) (log : σ),
            (coordinator.handle sink renderer ⟨.summary, 1, .message message⟩ log).2.1 =
              sink.push (renderer false held.text) log := by
  intro coordinator event
  obtain ⟨-, meaning⟩ := events_mean_the_same_under_normal_names
  obtain ⟨kind, -, -, -, lines⟩ := meaning event
  have worth : Reception.isWorthLine event = true := by decide +kernel
  refine ⟨by decide +kernel, kind.trans (by decide +kernel), fun held names => ?_⟩
  intro message
  have accepted : coordinator.accepts ⟨.summary, 1, .message message⟩ = true := rfl
  have tokens : (coordinator.lines .summary).tokens message.chunk =
      [.line "starting"] ++ .line held.text :: [] := by
    rcases names with rfl | rfl <;> decide +kernel
  have plain : held.Plain := by
    have noValues : (Json.Value.object []).Plain 127 := .object .nil nofun
    rcases names with rfl | rfl
    · exact ⟨by decide, rfl, rfl, nofun, noValues⟩
    · exact ⟨by decide, rfl, rfl, nofun, noValues⟩
  have quiet : coordinator.debug = false := rfl
  have unknown : coordinator.lastFinished = none := rfl
  have silent : (Reception.ofTokens .summary false "message" none
      [.line "starting"]).actions = [] := by
    decide +kernel
  have nothing : (Reception.ofTokens .summary false message.event none
      [.line "starting"]).actions = [] := silent
  have decoded := plain.parse_payload message.event
  refine ⟨accepted, tokens, decoded, ?_⟩
  intro σ sink renderer log
  have shown := lines held names coordinator 1 message accepted _ _ _ tokens decoded σ sink
    renderer log
  simp only [quiet, unknown, nothing, worth, Bool.false_or, if_true] at shown
  exact shown

end Coordinator
end Feed
end SyncWatch
