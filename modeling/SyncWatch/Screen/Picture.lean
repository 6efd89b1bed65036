import SyncWatch.Text.Cluster
import SyncWatch.Text.Width

/-!
# Pictures made of layers

A layer marks some of the cells of a rectangle, and a picture puts layers over
one another cell by cell.  A line of text becomes a layer that marks only the
cells that its characters take.
-/

namespace SyncWatch
namespace Screen

/-- The colours in use. -/
inductive Color where
  /-- The colour of the terminal. -/
  | reset
  | cyan
  | gray
  | darkGray
  | green
  | yellow
  | red
  | blue
  | white
  deriving DecidableEq, Repr

/-- One place of the screen. -/
structure Cell where
  symbol : String := " "
  color : Color := .reset
  bold : Bool := false
  deriving DecidableEq, Repr

/-- How a text is drawn; without a colour the one of the cell stays. -/
structure TextStyle where
  color : Option Color := none
  bold : Bool := false
  deriving DecidableEq, Repr

/-- The style with a colour. -/
def TextStyle.of (color : Color) : TextStyle where
  color := some color

/-- The style with a colour and heavy letters. -/
def TextStyle.boldOf (color : Color) : TextStyle where
  color := some color
  bold := true

/-- A rectangle of the screen. -/
structure Area where
  x : Nat
  y : Nat
  width : Nat
  height : Nat
  deriving DecidableEq, Repr

namespace Area

/-- The rectangle without its outermost cells. -/
def inner (area : Area) : Area where
  x := area.x + 1
  y := area.y + 1
  width := area.width - 2
  height := area.height - 2

/-- One row of the rectangle. -/
def row (area : Area) (index : Nat) : Area where
  x := area.x
  y := area.y + index
  width := area.width
  height := min 1 (area.height - index)

end Area

/-- What a layer does to a cell: without a symbol the one of the cell stays. -/
structure Mark where
  symbol : Option String := none
  style : TextStyle := {}
  deriving DecidableEq, Repr

/-- The cell with a mark put over it. -/
def Cell.marked (cell : Cell) (mark : Mark) : Cell where
  symbol := mark.symbol.getD cell.symbol
  color := mark.style.color.getD cell.color
  bold := cell.bold || mark.style.bold

/-- Rows of marks from a place on. -/
structure Layer where
  x : Nat
  y : Nat
  rows : List (List (Option Mark))

namespace Layer

/-- The mark of a layer at a column and a row. -/
def mark? (layer : Layer) (x y : Nat) : Option Mark :=
  if layer.x ≤ x ∧ layer.y ≤ y then
    match layer.rows[y - layer.y]? with
    | some row => row[x - layer.x]?.join
    | none => none
  else
    none

/-- A rectangle of which each cell is marked by its place in the rectangle. -/
def ofArea (area : Area) (mark : Nat → Nat → Option Mark) : Layer where
  x := area.x
  y := area.y
  rows := (List.range area.height).map fun row =>
    (List.range area.width).map fun column => mark column row

/-- A rectangle in a style. -/
def paint (area : Area) (style : TextStyle) : Layer :=
  ofArea area fun _ _ => some { style }

/-- The symbol of a box at a column and a row of it. -/
def boxSymbol? (area : Area) (column row : Nat) : Option String :=
  let left := column == 0
  let right := column + 1 == area.width
  let top := row == 0
  let bottom := row + 1 == area.height
  if left && top then some "┌"
  else if left && bottom then some "└"
  else if right && top then some "┐"
  else if right && bottom then some "┘"
  else if top || bottom then some "─"
  else if left || right then some "│"
  else none

/-- The border of a box. -/
def box (area : Area) (style : TextStyle) : Layer :=
  ofArea area fun column row =>
    (boxSymbol? area column row).map fun symbol => { symbol := some symbol, style }

/-- A line over the first row of a rectangle. -/
def rule (area : Area) : Layer :=
  ofArea (area.row 0) fun _ _ => some { symbol := some "─" }

end Layer

/-- Layers over one another, the last one on top. -/
abbrev Picture := List Layer

namespace Picture

/-- The cell of a picture at a column and a row. -/
def cell (picture : Picture) (x y : Nat) : Cell :=
  picture.foldl
    (fun cell layer =>
      match layer.mark? x y with
      | some mark => cell.marked mark
      | none => cell)
    {}

/-- The cells of a screen of a given size, row by row. -/
def cells (picture : Picture) (width height : Nat) : List (List Cell) :=
  (List.range height).map fun y => (List.range width).map fun x => picture.cell x y

end Picture

/-- A piece of text in one style. -/
structure Span where
  text : String
  style : TextStyle := {}
  deriving DecidableEq, Repr

/-- How many columns a line takes. -/
def lineWidth (line : List Span) : Nat :=
  Text.total (line.map fun span => Text.width span.text.toList)

/-- A cluster of characters with its style. -/
structure Glyph where
  symbol : List Char
  style : TextStyle
  deriving DecidableEq, Repr

namespace Glyph

/-- How many columns a glyph takes. -/
def width (glyph : Glyph) : Nat :=
  Text.width glyph.symbol

/-- The glyphs of a line; line feeds are left out. -/
def ofLine (line : List Span) : List Glyph :=
  line.flatMap fun span =>
    ((Text.clusters span.text.toList).filter (· != ['\n'])).map fun symbol =>
      ⟨symbol, span.style⟩

/-- The mark that draws a glyph. -/
def mark (glyph : Glyph) : Mark where
  symbol := some (String.ofList glyph.symbol)
  style := glyph.style

/-- The glyphs that fit into a number of columns, column by column; the second
column of a wide glyph is not marked.  A glyph that is wider than all the columns
is passed over, and the first other one that does not fit ends the line. -/
def placed (width : Nat) : Nat → List Glyph → List (Option Mark)
  | _, [] => []
  | used, glyph :: rest =>
    if width < glyph.width then placed width used rest
    else if width < used + glyph.width then []
    else if glyph.width == 0 then placed width used rest
    else
      some glyph.mark :: (List.replicate (glyph.width - 1) none ++
        placed width (used + glyph.width) rest)

end Glyph

namespace Layer

/-- Lines of text from the first row of a rectangle on. -/
def lines (area : Area) (texts : List (List Span)) : Layer where
  x := area.x
  y := area.y
  rows := (texts.take area.height).map fun line =>
    Glyph.placed area.width 0 (Glyph.ofLine line)

/-- A line of text at the beginning of a rectangle, as far as it fits. -/
def line (area : Area) (text : List Span) : Layer :=
  lines area [text]

/-- A line of text at the right end of a row; what does not fit is cut off on
its left. -/
def lineToRight (area : Area) (text : List Span) : Layer :=
  let glyphs := Glyph.ofLine text
  let shown := glyphs.drop (glyphs.length - area.width)
  { x := area.x + (area.width - shown.length)
    y := area.y
    rows := [shown.map fun glyph => some glyph.mark] }

end Layer

/-- The text of a row of cells; a wide symbol hides the cells behind it.  The
number counts the cells that are hidden. -/
def rowText : Nat → List Cell → String
  | _, [] => ""
  | hidden + 1, _ :: rest => rowText hidden rest
  | 0, cell :: rest => cell.symbol ++ rowText (Text.width cell.symbol.toList - 1) rest

end Screen
end SyncWatch
