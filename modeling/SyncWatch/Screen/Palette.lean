import SyncWatch.Feed.Session
import SyncWatch.Log.Style
import SyncWatch.Screen.Picture

/-!
# The colours of the screen

Which colour stands for what, for lines of the log and for the state of a feed.
-/

namespace SyncWatch
namespace Screen
namespace Palette

open Log Feed

/-- Titles and the beginning of a run. -/
def header : Color := .cyan

/-- Keys that can be pressed. -/
def hotkey : Color := .yellow

/-- Texts. -/
def text : Color := .white

/-- Texts of little weight. -/
def dimText : Color := .gray

/-- Borders. -/
def border : Color := .darkGray

/-- What goes well. -/
def healthy : Color := .green

/-- What needs attention. -/
def warning : Color := .yellow

/-- What failed. -/
def failure : Color := .red

/-- The filled part of the progress bar. -/
def progress : Color := .cyan

/-- How a line of the log is drawn. -/
def line : LineStyle → TextStyle
  | .plain => .of text
  | .info => .of .blue
  | .success => .of healthy
  | .warning => .of warning
  | .error => .of failure
  | .header => .boldOf header
  | .muted => .of dimText
  | .raw => .of dimText

/-- The colour for the state of a feed. -/
def status : StreamStatus → Color
  | .live => healthy
  | .connecting => warning
  | .off => border

end Palette
end Screen
end SyncWatch
