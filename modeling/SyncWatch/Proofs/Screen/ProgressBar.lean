import SyncWatch.Proofs.Screen.Picture
import SyncWatch.Screen.Progress
import Mathlib.Data.Nat.Digits.Defs

/-!
# The progress bar on the screen

The bar exists as a text and as a layer.  The layer shows the characters of the
text in the first row of its rectangle, whatever lies below it, and touches no
other cell.  The filled part does not become shorter as the percentage grows,
and since its length is rounded down, a cell stays empty until all is done.
-/

namespace SyncWatch
namespace Screen
namespace ProgressBar

variable (bar : ProgressBar)

theorem filled_le (width : Nat) : bar.filled width ≤ width :=
  Nat.div_le_of_le_mul (Nat.mul_le_mul_right width bar.percent_le)

@[simp] theorem length_cells (width : Nat) : (bar.cells width).length = width := by
  rw [cells, List.length_append, List.length_replicate, List.length_replicate]
  exact Nat.add_sub_cancel' (bar.filled_le width)

/-- A percentage has at most three digits, which are filled up with spaces. -/
@[simp] theorem length_label : bar.label.length = labelWidth := by
  have small : bar.percent < 10 ^ 3 := Nat.lt_of_le_of_lt bar.percent_le (by decide)
  have few : (Nat.toDigits 10 bar.percent).length ≤ 3 :=
    Nat.toDigits_length 10 bar.percent 3 (by decide) small
  simp only [label, List.length_append, List.length_cons, List.length_replicate, List.length_nil,
    labelWidth]
  omega

/-- The cells by their place. -/
theorem cells_eq (width : Nat) :
    bar.cells width =
      (List.range width).map fun index => if index < bar.filled width then '█' else '░' := by
  apply List.ext_getElem
  · rw [length_cells, List.length_map, List.length_range]
  · intro index _ _
    simp only [cells, List.getElem_append, List.length_replicate, List.getElem_replicate,
      List.getElem_map, List.getElem_range]
    split <;> rfl

theorem count_cells (width : Nat) : (bar.cells width).count '█' = bar.filled width := by
  simp [cells, List.count_replicate]

/-- All cells are filled when their number is. -/
theorem cells_eq_replicate_iff (width : Nat) :
    bar.cells width = List.replicate width '█' ↔ bar.filled width = width := by
  constructor
  · intro full
    rw [← bar.count_cells, full, List.count_replicate_self]
  · intro full
    rw [cells, full, Nat.sub_self]
    exact List.append_nil _

/-- A greater percentage fills as many cells at least. -/
theorem filled_mono
    {lower higher : Nat}
    (grown : lower ≤ higher)
    (width : Nat) :
    (ofPercent lower).filled width ≤ (ofPercent higher).filled width := by
  have capped : min lower 100 ≤ min higher 100 := by omega
  exact Nat.div_le_div_right (Nat.mul_le_mul_right width capped)

/-- Rounding down fills the last cell with the last percent. -/
theorem filled_eq_self_iff
    {width : Nat}
    (room : 0 < width)
    (percent : Nat) :
    (ofPercent percent).filled width = width ↔ 100 ≤ percent := by
  constructor
  · intro full
    by_contra unfinished
    have below : min percent 100 < 100 := by omega
    have short : (ofPercent percent).filled width < width :=
      Nat.div_lt_of_lt_mul (Nat.mul_lt_mul_of_pos_right below room)
    omega
  · intro done
    have capped : (ofPercent percent).percent = 100 := Nat.min_eq_right done
    rw [filled, capped]
    exact Nat.mul_div_cancel_left width (by decide)

/-- The marks of a bar of a number of cells with its percentage. -/
def marks (width : Nat) : List Mark :=
  (List.range width).map (bar.cellMark width) ++ bar.label.map labelMark

theorem length_marks (width : Nat) : (bar.marks width).length = width + labelWidth := by
  rw [marks, List.length_append, List.length_map, List.length_map, List.length_range,
    length_label]

/-- The symbols that are drawn are the characters of the text. -/
theorem map_symbol_marks (width : Nat) :
    (bar.marks width).map Mark.symbol =
      ((bar.text width).toList.map String.singleton).map some := by
  have cell (index : Nat) : (bar.cellMark width index).symbol =
      some (String.singleton (if index < bar.filled width then '█' else '░')) := by
    rw [cellMark]
    split <;> rfl
  rw [text, String.toList_ofList, marks, cells_eq]
  simp only [List.map_append, List.map_map]
  exact congrArg (· ++ _) (List.map_congr_left fun index _ => cell index)

/-- A bar that has room is one row of marks. -/
theorem layer_eq_ofRow
    {area : Area}
    (wide : labelWidth < area.width)
    (high : 0 < area.height) :
    bar.layer area = .ofRow area (bar.marks (area.width - labelWidth)) := by
  rw [layer, if_pos ⟨wide, high⟩, Layer.ofRow, marks, List.map_append, List.map_map, List.map_map]
  rfl

/-- A bar marks no cell outside the first row of its rectangle. -/
theorem mark?_layer_of_outside
    {area : Area}
    {x y : Nat}
    (outside : ¬(area.x ≤ x ∧ x < area.x + area.width ∧ y = area.y)) :
    (bar.layer area).mark? x y = none := by
  by_cases room : labelWidth < area.width ∧ 0 < area.height
  · rw [bar.layer_eq_ofRow room.1 room.2, Layer.mark?_ofRow]
    split
    next inRow =>
      apply List.getElem?_eq_none
      rw [length_marks]
      omega
    next => rfl
  · rw [layer, if_neg room, Layer.mark?]
    split <;> rfl

/-- A bar in a rectangle on the screen shows the characters of its text there. -/
theorem symbols_firstRow
    {area : Area}
    {width height : Nat}
    (wide : labelWidth < area.width)
    (high : 0 < area.height)
    (fitsWidth : area.x + area.width ≤ width)
    (fitsHeight : area.y + area.height ≤ height)
    (below : Picture) :
    (area.firstRow (Picture.cells (below ++ [bar.layer area]) width height)).map Cell.symbol =
      (bar.text (area.width - labelWidth)).toList.map String.singleton := by
  have length : (bar.marks (area.width - labelWidth)).length = area.width := by
    rw [length_marks]
    omega
  rw [area.firstRow_cells high fitsWidth fitsHeight, List.map_map, bar.layer_eq_ofRow wide high]
  exact Picture.symbols_concat_ofRow length (bar.map_symbol_marks _) below

/-- A bar in a rectangle on the screen that is wider than the percentage shows the
characters of its text in the first row, and every other cell is as it was.  The
text is as many cells as are asked for and five characters for the percentage.
A greater percentage fills as many cells at least, and all cells are filled
exactly when the percentage is a hundred or more. -/
theorem progress_bar_is_drawn_as_its_text :
    (∀ (percent : Nat) (below : Picture) (width height : Nat) (area : Area),
      6 ≤ area.width → 1 ≤ area.height →
      area.x + area.width ≤ width → area.y + area.height ≤ height →
        let bar := ofPercent percent
        let drawn := below ++ [bar.layer area]
        (area.firstRow (drawn.cells width height)).map Cell.symbol =
            (bar.text (area.width - 5)).toList.map String.singleton ∧
          ∀ x y, ¬(area.x ≤ x ∧ x < area.x + area.width ∧ y = area.y) →
            drawn.cell x y = below.cell x y) ∧
    (∀ percent width : Nat,
      let bar := ofPercent percent
      (bar.text width).toList = bar.cells width ++ bar.label ∧
        (bar.cells width).length = width ∧ bar.label.length = 5 ∧
        (0 < width → (bar.cells width = List.replicate width '█' ↔ 100 ≤ percent))) ∧
    ∀ lower higher width : Nat, lower ≤ higher →
      ((ofPercent lower).cells width).count '█' ≤ ((ofPercent higher).cells width).count '█' := by
  refine ⟨?_, ?_, ?_⟩
  · intro percent below width height area wide high fitsWidth fitsHeight bar drawn
    refine ⟨bar.symbols_firstRow wide high fitsWidth fitsHeight below, ?_⟩
    intro x y outside
    exact (Picture.cell_of_unmarked (bar.mark?_layer_of_outside outside) below []).trans
      (by rw [List.append_nil])
  · intro percent width bar
    refine ⟨String.toList_ofList, bar.length_cells width, bar.length_label, ?_⟩
    intro room
    rw [bar.cells_eq_replicate_iff, filled_eq_self_iff room]
  · intro lower higher width grown
    rw [count_cells, count_cells]
    exact filled_mono grown width

/-- A bar in a box leaves the border of the box, and one that is almost done has an
empty cell. -/
theorem half_bar_in_box :
    let area : Area := ⟨1, 1, 15, 1⟩
    let below : Picture := [.box ⟨0, 0, 17, 3⟩ {}]
    let drawn := below ++ [(ofPercent 50).layer area]
    6 ≤ area.width ∧ 1 ≤ area.height ∧ area.x + area.width ≤ 17 ∧ area.y + area.height ≤ 3 ∧
      String.join ((area.firstRow (drawn.cells 17 3)).map Cell.symbol) = "█████░░░░░  50%" ∧
      (drawn.cell 0 1).symbol = "│" ∧
      (ofPercent 99).cells 15 ≠ List.replicate 15 '█' := by
  intro area below drawn
  obtain ⟨draws, parts, -⟩ := progress_bar_is_drawn_as_its_text
  have wide : 6 ≤ area.width := by decide
  have high : 1 ≤ area.height := by decide
  have fitsWidth : area.x + area.width ≤ 17 := by decide
  have fitsHeight : area.y + area.height ≤ 3 := by decide
  obtain ⟨shown, kept⟩ := draws 50 below 17 3 area wide high fitsWidth fitsHeight
  obtain ⟨-, -, -, full⟩ := parts 99 15
  refine ⟨wide, high, fitsWidth, fitsHeight, ?_, ?_, ?_⟩
  · rw [shown]
    decide
  · rw [kept 0 1 (by decide)]
    decide
  · rw [ne_eq, full (by decide)]
    decide

end ProgressBar
end Screen
end SyncWatch
