import SyncWatch.Dashboard.Basic
import SyncWatch.Screen.Progress

/-!
# What the dashboard looks like

From top to bottom: the server and the state of the feeds, the progress of the
run, the log, and the keys with what the reader is told.
-/

namespace SyncWatch
namespace Dashboard

open Feed Log Progress Screen

/-- The rows of the first box. -/
def headerHeight : Nat := 3

/-- The rows of the box with the progress. -/
def progressHeight : Nat := 4

/-- The rows at the bottom. -/
def footerHeight : Nat := 2

/-- The box of the log on a screen of a given size. -/
def logArea (width height : Nat) : Area where
  x := 0
  y := headerHeight + progressHeight
  width := width
  height := height - (headerHeight + progressHeight + footerHeight)

/-- The style of borders. -/
def borderStyle : TextStyle := .of Palette.border

/-- The style of texts of little weight. -/
def dimStyle : TextStyle := .of Palette.dimText

/-- What a feed is doing; attempts after a failure are counted. -/
def badgeLabel (stream : Feed.Stream) : String :=
  match stream.session with
  | some session =>
    if stream.status = .connecting ∧ 0 < session.failures then
      "retry #" ++ toString session.failures
    else
      stream.status.label
  | none => stream.status.label

/-- The name of a feed and what it is doing. -/
def badge (dashboard : Dashboard) (feed : FeedKind) : List Span :=
  let stream := dashboard.coordinator.stream feed
  [⟨feed.label ++ ":", dimStyle⟩, ⟨badgeLabel stream ++ " ", .of (Palette.status stream.status)⟩]

/-- The left part of the first box. -/
def headerLeft (dashboard : Dashboard) : List Span :=
  [⟨" CWMON ", .boldOf Palette.header⟩,
    ⟨" " ++ dashboard.settings.serverAddress ++ " ", dimStyle⟩]

/-- The right part of the first box. -/
def headerRight (dashboard : Dashboard) : List Span :=
  let focus := if dashboard.visible then [] else [⟨"[unfocused] ", dimStyle⟩]
  let last := dashboard.lastMessageAt.map fun clock => ⟨"last " ++ clock.text, dimStyle⟩
  dashboard.badge .verbose ++ dashboard.badge .summary ++ focus ++ last.toList

/-- The text of the first box; the space between its parts fills the row. -/
def headerLine (dashboard : Dashboard) (width : Nat) : List Span :=
  let left := dashboard.headerLeft
  let right := dashboard.headerRight
  let spacing := width - (lineWidth (left ++ right) + 2)
  left ++ ⟨String.ofList (List.replicate spacing ' '), {}⟩ :: right

/-- The first box. -/
def headerPicture (dashboard : Dashboard) (width : Nat) : Picture :=
  let area : Area := { x := 0, y := 0, width, height := headerHeight }
  [.box area borderStyle, .line area.inner (dashboard.headerLine width)]

/-- A title at the beginning of the border of a box. -/
def titleArea (area : Area) : Area :=
  { area.inner with y := area.y, height := 1 }

/-- The box with the progress. -/
def progressPicture (dashboard : Dashboard) (width : Nat) : Picture :=
  let state := dashboard.progress
  let area : Area := { x := 0, y := headerHeight, width, height := progressHeight }
  let title : Span := ⟨" Run: " ++ state.phase.label ++ " ", .of Palette.header⟩
  [.box area borderStyle, .line (titleArea area) [title],
    chipsLayer state.timeline (area.inner.row 0),
    (ProgressBar.ofPercent state.percent).layer (area.inner.row 1)]

/-- The title of the log. -/
def logTitle (dashboard : Dashboard) : String :=
  if dashboard.coordinator.detailsOpen then " Details (verbose log) " else " Summary "

/-- Where the view stands in the log, as it was when the last view was drawn. -/
def positionText (dashboard : Dashboard) : String :=
  let scroll := dashboard.log.scroll
  let place :=
    if scroll.pinned then "following" else toString scroll.positionPercent ++ "%"
  " " ++ place ++ (if dashboard.coordinator.debug then " · debug" else "") ++ " "

/-- A line of the log; in debugging mode the time of its arrival comes first. -/
def logLine (stamped : Bool) (line : StampedLine) : List Span :=
  let stamp := if stamped then [⟨line.receivedAt.text ++ " ", borderStyle⟩] else []
  stamp ++ [⟨line.content.text, Palette.line line.content.style⟩]

/-- The lines of the log that are in view. -/
def logLines (dashboard : Dashboard) (rows : Nat) : List (List Span) :=
  let shown := (dashboard.log.withViewport rows).window
  if shown.isEmpty then [[⟨"Waiting for output...", dimStyle⟩]]
  else shown.map (logLine dashboard.coordinator.debug)

/-- The box with the log. -/
def logPicture (dashboard : Dashboard) (width height : Nat) : Picture :=
  let area := logArea width height
  [.box area borderStyle,
    .lineToRight (titleArea area) [⟨dashboard.positionText, dimStyle⟩],
    .line (titleArea area) [⟨dashboard.logTitle, .of Palette.header⟩],
    .lines area.inner (dashboard.logLines area.inner.height)]

/-- The keys with what they do. -/
def hints : List Span :=
  let hint (key name : String) : List Span := [⟨key, .of Palette.hotkey⟩, ⟨name, {}⟩]
  hint "[d]" "Details " ++ hint "[b]" "Debug " ++ hint "[↑↓]" "Scroll " ++
    hint "[0-9/End]" "Scrub " ++ hint "[r]" "Reconnect " ++ hint "[c]" "Clear " ++
    hint "[q]" "Quit"

/-- The text of the last row. -/
def footerLine (dashboard : Dashboard) : List Span :=
  match dashboard.status with
  | some status => hints ++ [⟨"  ", {}⟩, ⟨status, dimStyle⟩]
  | none => hints

/-- The rows at the bottom. -/
def footerPicture (dashboard : Dashboard) (width height : Nat) : Picture :=
  let area : Area := { x := 0, y := height - footerHeight, width, height := footerHeight }
  [.paint area dimStyle, .rule area, .line (area.row 1) dashboard.footerLine]

/-- The whole screen. -/
def picture (dashboard : Dashboard) (width height : Nat) : Picture :=
  dashboard.headerPicture width ++ dashboard.progressPicture width ++
    dashboard.logPicture width height ++ dashboard.footerPicture width height

/-- The cells of the screen. -/
def frame (dashboard : Dashboard) (width height : Nat) : List (List Cell) :=
  (dashboard.picture width height).cells width height

/-- The dashboard after it was drawn, which gives the log its view. -/
def drawn (dashboard : Dashboard) (width height : Nat) : Dashboard :=
  dashboard.changeLog (·.withViewport (logArea width height).inner.height)

end Dashboard
end SyncWatch
