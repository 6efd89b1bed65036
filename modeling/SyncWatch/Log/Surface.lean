import SyncWatch.Log.Render
import SyncWatch.Log.Scroll

/-!
# The log on the screen

Both feeds write to one log.  A sink says what a feed can do to a log, a
transcript keeps everything, and the surface keeps only the newest lines,
together with the place of the view.
-/

namespace SyncWatch
namespace Log

/-- What a feed can do to a log. -/
structure Sink (σ : Type) where
  /-- Append a line. -/
  push : StyledText → σ → σ
  /-- Empty the log for good. -/
  clear : σ → σ
  /-- Empty the log before a feed sends its lines again. -/
  beginReplay : σ → σ

/-- A log that keeps every line. -/
structure Transcript where
  lines : List StyledText := []
  /-- How often the log was emptied for good. -/
  clears : Nat := 0
  /-- How often the log was emptied before it was sent again. -/
  replays : Nat := 0
  deriving DecidableEq, Repr

/-- How feeds write to a transcript. -/
def Transcript.sink : Sink Transcript where
  push line log := { log with lines := log.lines ++ [line] }
  clear log := { log with lines := [], clears := log.clears + 1 }
  beginReplay log := { log with lines := [], replays := log.replays + 1 }

/-- A time of day. -/
structure ClockTime where
  hour : Nat
  minute : Nat
  second : Nat
  deriving DecidableEq, Repr

/-- The time of day with two digits for each part. -/
def ClockTime.text (time : ClockTime) : String :=
  let two := Decimal.padded 2
  two time.hour ++ ":" ++ two time.minute ++ ":" ++ two time.second

/-- A line of the log with the time of its arrival. -/
structure StampedLine where
  content : StyledText
  receivedAt : ClockTime
  deriving DecidableEq, Repr

/-- The newest lines of the log and the place of the view. -/
structure LogSurface where
  lines : List StampedLine := []
  /-- How many lines are kept. -/
  capacity : Nat := 2000
  /-- How many lines were dropped since the log was last emptied. -/
  dropped : Nat := 0
  /-- How often the log was emptied for good. -/
  clears : Nat := 0
  scroll : ScrollState := {}
  deriving DecidableEq, Repr

namespace LogSurface

/-- An empty log that keeps a number of lines, at least one. -/
def new (capacity tolerance : Nat) : LogSurface where
  capacity := max capacity 1
  scroll := { tolerance }

/-- Append a line; a full log drops its oldest line first. -/
def push (surface : LogSurface) (line : StampedLine) : LogSurface :=
  let scroll := surface.scroll.beforeMutation
  if surface.capacity ≤ surface.lines.length then
    let lines := surface.lines.drop 1 ++ [line]
    { surface with
      lines
      dropped := surface.dropped + 1
      scroll := (scroll.afterEvict 1).afterAppend lines.length }
  else
    let lines := surface.lines ++ [line]
    { surface with lines, scroll := scroll.afterAppend lines.length }

/-- Empty the log for good. -/
def clear (surface : LogSurface) : LogSurface :=
  { surface with
    lines := []
    dropped := 0
    clears := surface.clears + 1
    scroll := surface.scroll.clear }

/-- Empty the log before a feed sends its lines again. -/
def beginReplay (surface : LogSurface) : LogSurface :=
  { surface with lines := [], dropped := 0, scroll := surface.scroll.beginReplay }

/-- The surface with a view of a given height. -/
def withViewport (surface : LogSurface) (height : Nat) : LogSurface :=
  { surface with scroll := surface.scroll.setViewport height }

/-- The lines of the view. -/
def window (surface : LogSurface) : List StampedLine :=
  (surface.lines.drop surface.scroll.offset).take surface.scroll.viewport

/-- Scroll by a number of rows. -/
def scrollBy (surface : LogSurface) (rows : Int) : LogSurface :=
  { surface with scroll := surface.scroll.scrollBy rows }

/-- Scroll by a number of views. -/
def page (surface : LogSurface) (pages : Int) : LogSurface :=
  { surface with scroll := surface.scroll.page pages }

/-- Scroll to the first line. -/
def scrollToTop (surface : LogSurface) : LogSurface :=
  { surface with scroll := surface.scroll.scrollToTop }

/-- Move to a percentage of the log. -/
def scrubTo (surface : LogSurface) (percent : Nat) : LogSurface :=
  { surface with scroll := surface.scroll.scrubTo percent }

/-- How feeds write to the surface at a given time. -/
def sink (now : ClockTime) : Sink LogSurface where
  push line surface := surface.push ⟨line, now⟩
  clear := clear
  beginReplay := beginReplay

end LogSurface
end Log
end SyncWatch
