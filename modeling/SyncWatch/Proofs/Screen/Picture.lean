import SyncWatch.Screen.Picture
import Mathlib.Data.List.Range

/-!
# What layers show

A layer is seen where it marks a cell, and nowhere else.  A row of marks with a
symbol each shows these symbols, whatever lies below it.
-/

namespace SyncWatch
namespace Screen

namespace Layer

/-- A layer of one row marks that row alone. -/
theorem mark?_of_rows_eq
    {layer : Layer}
    {row : List (Option Mark)}
    (single : layer.rows = [row])
    (x y : Nat) :
    layer.mark? x y = if layer.x ≤ x ∧ y = layer.y then row[x - layer.x]?.join else none := by
  rw [mark?, single]
  by_cases here : y = layer.y
  · subst here
    simp
  · have elsewhere : ¬(layer.x ≤ x ∧ y = layer.y) := fun both => here both.2
    rw [if_neg elsewhere]
    split
    next within =>
      have later : 0 < y - layer.y := Nat.sub_pos_of_lt (Nat.lt_of_le_of_ne within.2 (Ne.symm here))
      have absent : [row][y - layer.y]? = none := List.getElem?_eq_none later
      rw [absent]
    next => rfl

/-- A line at the right end of a row marks that row alone. -/
theorem mark?_lineToRight
    {area : Area}
    {y : Nat}
    (other : y ≠ area.y)
    (text : List Span)
    (x : Nat) :
    (Layer.lineToRight area text).mark? x y = none := by
  rw [mark?_of_rows_eq rfl]
  exact if_neg fun both => other both.2

/-- Marks for the cells of the first row of a rectangle. -/
def ofRow (area : Area) (row : List Mark) : Layer where
  x := area.x
  y := area.y
  rows := [row.map some]

theorem mark?_ofRow (area : Area) (row : List Mark) (x y : Nat) :
    (ofRow area row).mark? x y =
      if area.x ≤ x ∧ y = area.y then row[x - area.x]? else none := by
  have unwrapped (found : Option Mark) : (found.map some).join = found := by
    cases found <;> rfl
  rw [mark?_of_rows_eq rfl, List.getElem?_map, unwrapped]
  rfl

end Layer

namespace Picture

/-- A layer is not seen at a cell that it does not mark. -/
theorem cell_of_unmarked
    {layer : Layer}
    {x y : Nat}
    (unmarked : layer.mark? x y = none)
    (below above : Picture) :
    Picture.cell (below ++ layer :: above) x y = Picture.cell (below ++ above) x y := by
  simp only [cell, List.foldl_append, List.foldl_cons, unmarked]

/-- The last layer is put over what the others show. -/
theorem cell_concat_of_marked
    {layer : Layer}
    {x y : Nat}
    {mark : Mark}
    (marked : layer.mark? x y = some mark)
    (below : Picture) :
    Picture.cell (below ++ [layer]) x y = (below.cell x y).marked mark := by
  simp only [cell, List.foldl_append, List.foldl_cons, List.foldl_nil, marked]

/-- Marks that have a symbol each show these symbols in the row. -/
theorem symbols_concat_ofRow
    {area : Area}
    {row : List Mark}
    {symbols : List String}
    (length : row.length = area.width)
    (equal : row.map Mark.symbol = symbols.map some)
    (below : Picture) :
    (List.range area.width).map
        (fun column =>
          (Picture.cell (below ++ [Layer.ofRow area row]) (area.x + column) area.y).symbol) =
      symbols := by
  have asMany : symbols.length = area.width := by
    rw [← length, ← List.length_map Mark.symbol, equal, List.length_map]
  apply List.ext_getElem
  · rw [List.length_map, List.length_range, asMany]
  · intro column within present
    rw [List.length_map, List.length_range] at within
    have inRow : column < row.length := length ▸ within
    have marked : (Layer.ofRow area row).mark? (area.x + column) area.y = some row[column] := by
      rw [Layer.mark?_ofRow, if_pos ⟨Nat.le_add_right _ _, rfl⟩, Nat.add_sub_cancel_left]
      exact List.getElem?_eq_getElem inRow
    have symbol : row[column].symbol = some symbols[column] := by
      have same := congrArg (·[column]?) equal
      simpa [inRow, present] using same
    rw [List.getElem_map, List.getElem_range, cell_concat_of_marked marked, Cell.marked, symbol]
    rfl

end Picture

/-- The cells that a screen has in the first row of a rectangle. -/
def Area.firstRow (area : Area) (screen : List (List Cell)) : List Cell :=
  ((screen.getD area.y []).drop area.x).take area.width

/-- A rectangle that lies on the screen has all cells of its first row there. -/
theorem Area.firstRow_cells
    {area : Area}
    {width height : Nat}
    (high : 0 < area.height)
    (fitsWidth : area.x + area.width ≤ width)
    (fitsHeight : area.y + area.height ≤ height)
    (picture : Picture) :
    area.firstRow (picture.cells width height) =
      (List.range area.width).map fun column => picture.cell (area.x + column) area.y := by
  have onScreen : area.y < height := by omega
  have row : (picture.cells width height).getD area.y [] =
      (List.range width).map fun x => picture.cell x area.y := by
    simp [Picture.cells, onScreen]
  rw [firstRow, row]
  apply List.ext_getElem
  · simp only [List.length_take, List.length_drop, List.length_map, List.length_range]
    omega
  · intro column _ _
    simp

end Screen
end SyncWatch
