import SyncWatch.Progress.Machine
import SyncWatch.Screen.Palette

/-!
# The progress of a run on the screen

Four chips for the milestones of a run, and a bar with the percentage at its
right end.  Both exist as a text and as a layer.
-/

namespace SyncWatch
namespace Screen

open SyncWatch.Progress

/-- The names of the milestones, with whether each was reached. -/
def milestones (timeline : Timeline) : List (String × Bool) :=
  [("Start", timeline.start), ("Snapshot", timeline.pre), ("Apply", timeline.post),
    ("Done", timeline.done)]

/-- One milestone, filled when it was reached. -/
def chip (milestone : String × Bool) : Span :=
  if milestone.2 then ⟨"● " ++ milestone.1, .boldOf Palette.healthy⟩
  else ⟨"○ " ++ milestone.1, .of Palette.dimText⟩

/-- The milestones in a line. -/
def chips (timeline : Timeline) : List Span :=
  ((milestones timeline).map chip).intersperse ⟨" ─ ", .of Palette.border⟩

/-- The text of the milestones. -/
def chipsText (timeline : Timeline) : String :=
  String.join ((chips timeline).map (·.text))

/-- The milestones at the beginning of a rectangle. -/
def chipsLayer (timeline : Timeline) (area : Area) : Layer :=
  .line area (chips timeline)

/-- How much of a run is done, as the bar shows it. -/
structure ProgressBar where
  percent : Nat
  percent_le : percent ≤ 100
  deriving DecidableEq

namespace ProgressBar

/-- The bar of a percentage, which is at most full. -/
def ofPercent (percent : Nat) : ProgressBar :=
  ⟨min percent 100, Nat.min_le_right _ _⟩

/-- How many of a number of cells are filled. -/
def filled (bar : ProgressBar) (width : Nat) : Nat :=
  bar.percent * width / 100

/-- The characters of the percentage, right-aligned in three columns. -/
def label (bar : ProgressBar) : List Char :=
  let digits := Nat.toDigits 10 bar.percent
  ' ' :: (List.replicate (3 - digits.length) ' ' ++ digits) ++ ['%']

/-- The characters of a bar of a number of cells. -/
def cells (bar : ProgressBar) (width : Nat) : List Char :=
  List.replicate (bar.filled width) '█' ++ List.replicate (width - bar.filled width) '░'

/-- The text of a bar of a number of cells with its percentage. -/
def text (bar : ProgressBar) (width : Nat) : String :=
  String.ofList (bar.cells width ++ bar.label)

/-- The width of the percentage with the space in front of it. -/
def labelWidth : Nat := 5

/-- The colour of the filled cells. -/
def color (bar : ProgressBar) : Color :=
  if bar.percent = 100 then Palette.healthy else Palette.progress

/-- How a cell of a bar of a number of cells is drawn. -/
def cellMark (bar : ProgressBar) (width index : Nat) : Mark :=
  if index < bar.filled width then { symbol := some "█", style := .of bar.color }
  else { symbol := some "░", style := .of Palette.border }

/-- How a character of the percentage is drawn. -/
def labelMark (char : Char) : Mark where
  symbol := some (String.singleton char)
  style := .boldOf Palette.text

/-- The bar in the first row of a rectangle, unless there is no room for it. -/
def layer (bar : ProgressBar) (area : Area) : Layer where
  x := area.x
  y := area.y
  rows :=
    if labelWidth < area.width ∧ 0 < area.height then
      let width := area.width - labelWidth
      [(List.range width).map (fun index => some (bar.cellMark width index)) ++
        bar.label.map fun char => some (labelMark char)]
    else
      []

end ProgressBar
end Screen
end SyncWatch
