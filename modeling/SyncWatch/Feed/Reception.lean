import SyncWatch.Feed.Event
import SyncWatch.Log.Line
import SyncWatch.Log.Surface

/-!
# What a message does

A message of a feed is cut into log tokens.  Each token may ask something of
the log, and may hold a payload that matters for progress.  What is asked of
the log depends neither on the log nor on how lines are shown.
-/

namespace SyncWatch
namespace Feed

open Progress Log

/-- What is asked of the log. -/
inductive LogAction where
  /-- Show a line. -/
  | append (text : String)
  /-- Empty the log for good. -/
  | clear
  /-- Empty the log before the feed sends its lines again. -/
  | beginReplay
  deriving DecidableEq, Repr

namespace LogAction

/-- Carry out an action on a log. -/
def perform {σ : Type} (sink : Sink σ) (renderer : Renderer) (debug : Bool) (log : σ) :
    LogAction → σ
  | .append text => sink.push (renderer debug text) log
  | .clear => sink.clear log
  | .beginReplay => sink.beginReplay log

/-- Carry out actions in their order. -/
def performAll {σ : Type} (sink : Sink σ) (renderer : Renderer) (debug : Bool)
    (actions : List LogAction) (log : σ) : σ :=
  actions.foldl (perform sink renderer debug) log

end LogAction

/-- What a message does: to the log, to progress, and to the memory of the run
that was last shown as finished. -/
structure Reception where
  actions : List LogAction := []
  payloads : List SummaryPayload := []
  lastFinished : Option String := none

namespace Reception

/-- Two receptions, one after the other. -/
def followedBy (first second : Reception) : Reception where
  actions := first.actions ++ second.actions
  payloads := first.payloads ++ second.payloads
  lastFinished := second.lastFinished

/-- What a token of the verbose feed does. -/
def ofVerboseToken (lastFinished : Option String) : LogToken → Reception
  | .clear => { actions := [.clear], lastFinished }
  | .line text =>
    { actions := [.append text]
      payloads := ((eventOfLine? text).map .event).toList
      lastFinished }

/-- Whether the compact view gives an event a line.  Steps of the writes and
unknown events only move the bar, but messages for debugging are shown. -/
def isWorthLine (event : SyncEvent) : Bool :=
  (event.kind != .applyProgress && event.kind != .other) || normalName event.name == "debug"

/-- What a payload of the summary feed does, sent as a given text.  A finished
run is shown once. -/
def ofPayload (debug : Bool) (lastFinished : Option String) (text : String)
    (payload : SummaryPayload) : Reception :=
  match payload with
  | .event event =>
    { actions := if debug || isWorthLine event then [.append text] else []
      payloads := [payload]
      lastFinished }
  | .snapshot summary =>
    if summary.isFinished && lastFinished != some summary.finishKey then
      { actions := [.append text]
        payloads := [payload]
        lastFinished := some summary.finishKey }
    else
      { payloads := [payload], lastFinished }

/-- What a token of the summary feed does, in a message with a given name.
Blank and malformed lines do nothing. -/
def ofSummaryToken (debug : Bool) (name : String) (lastFinished : Option String) :
    LogToken → Reception
  | .clear => { actions := [.clear] }
  | .line text =>
    if Text.isBlankText text then
      { lastFinished }
    else
      match SummaryPayload.parse name text with
      | .ok payload => ofPayload debug lastFinished text payload
      | .error _ => { lastFinished }

/-- What a token does. -/
def ofToken (feed : FeedKind) (debug : Bool) (name : String) (lastFinished : Option String)
    (token : LogToken) : Reception :=
  match feed with
  | .verbose => ofVerboseToken lastFinished token
  | .summary => ofSummaryToken debug name lastFinished token

/-- What tokens do, one after the other. -/
def ofTokens (feed : FeedKind) (debug : Bool) (name : String) :
    Option String → List LogToken → Reception
  | lastFinished, [] => { lastFinished }
  | lastFinished, token :: rest =>
    let first := ofToken feed debug name lastFinished token
    first.followedBy (ofTokens feed debug name first.lastFinished rest)

end Reception
end Feed
end SyncWatch
