import SyncWatch.Text.Blank
import Mathlib.Data.List.DropRight

/-!
# Texts without white space at their ends

Trimming takes off blank characters only, and it depends on nothing but what
lies between the first and the last character that is not blank.
-/

namespace SyncWatch
namespace Text

/-- A text is blank characters, then what trimming leaves of it, then blank
characters. -/
theorem exists_eq_append_trim (text : List Char) :
    ∃ before after, text = before ++ trim text ++ after ∧
      (∀ char ∈ before, isBlank char = true) ∧ ∀ char ∈ after, isBlank char = true := by
  refine ⟨text.takeWhile isBlank, (text.dropWhile isBlank).rtakeWhile isBlank, ?_, ?_, ?_⟩
  · have trimmedEnd : trim text = (text.dropWhile isBlank).rdropWhile isBlank := rfl
    rw [trimmedEnd, List.append_assoc, List.rdropWhile_append_rtakeWhile,
      List.takeWhile_append_dropWhile]
  · exact fun char present => List.mem_takeWhile_imp present
  · exact fun char present => List.mem_rtakeWhile_imp present

/-- Trimming keeps every character that is not blank. -/
theorem mem_trim
    {text : List Char}
    {char : Char}
    (present : char ∈ text)
    (visible : isBlank char = false) :
    char ∈ trim text := by
  obtain ⟨before, after, equal, blankBefore, blankAfter⟩ := exists_eq_append_trim text
  rw [equal, List.mem_append, List.mem_append] at present
  rcases present with (inBefore | inside) | inAfter
  · rw [blankBefore char inBefore] at visible
    cases visible
  · exact inside
  · rw [blankAfter char inAfter] at visible
    cases visible

/-- Nothing is left exactly of a blank text. -/
theorem trim_eq_nil_iff (text : List Char) :
    trim text = [] ↔ ∀ char ∈ text, isBlank char = true := by
  constructor
  · intro empty char present
    cases visible : isBlank char with
    | true => rfl
    | false =>
        have inside := mem_trim present visible
        rw [empty] at inside
        cases inside
  · intro blank
    have nothing : text.dropWhile isBlank = [] := List.dropWhile_eq_nil_iff.mpr blank
    rw [trim, trimStart, nothing]
    rfl

/-- A blank character in front is taken off. -/
theorem trim_cons_of_isBlank
    {char : Char}
    (blank : isBlank char = true)
    (text : List Char) :
    trim (char :: text) = trim text := by
  rw [trim, trimStart, List.dropWhile_cons_of_pos blank]
  rfl

/-- A blank character at the end is taken off. -/
theorem trim_concat_of_isBlank
    {char : Char}
    (blank : isBlank char = true)
    (text : List Char) :
    trim (text ++ [char]) = trim text := by
  change ((text ++ [char]).dropWhile isBlank).rdropWhile isBlank =
    (text.dropWhile isBlank).rdropWhile isBlank
  rw [List.dropWhile_append]
  split
  next empty =>
    rw [List.isEmpty_iff.mp empty]
    simp [blank]
  next => rw [List.rdropWhile_concat_pos _ _ _ blank]

/-- What trimming leaves does not begin with a blank character. -/
theorem isBlank_of_trim_eq_cons
    {text rest : List Char}
    {first : Char}
    (shape : trim text = first :: rest) :
    isBlank first = false := by
  obtain ⟨tail, whole⟩ : trim text <+: text.dropWhile isBlank := List.rdropWhile_prefix _ _
  rw [shape, List.cons_append] at whole
  have kept := List.head?_dropWhile_not isBlank text
  rw [← whole] at kept
  simpa using kept

/-- What trimming leaves does not end with a blank character. -/
theorem isBlank_of_trim_eq_concat
    {text init : List Char}
    {last : Char}
    (shape : trim text = init ++ [last]) :
    isBlank last = false := by
  have equal : (text.dropWhile isBlank).rdropWhile isBlank = init ++ [last] := shape
  have nonempty : (text.dropWhile isBlank).rdropWhile isBlank ≠ [] := by simp [equal]
  have kept := List.rdropWhile_last_not _ _ nonempty
  simpa [equal] using kept

/-- A trimmed text stays trimmed when its characters change and none of them
becomes blank. -/
theorem trim_map_trim
    {change : Char → Char}
    (visible : ∀ char, isBlank char = false → isBlank (change char) = false)
    (text : List Char) :
    trim ((trim text).map change) = (trim text).map change := by
  have start : trimStart ((trim text).map change) = (trim text).map change := by
    cases shape : trim text with
    | nil => rfl
    | cons first rest =>
        rw [List.map_cons, trimStart, List.dropWhile_cons_of_neg]
        simp [visible first (isBlank_of_trim_eq_cons shape)]
  rw [trim, start]
  rcases List.eq_nil_or_concat' (trim text) with empty | ⟨init, last, shape⟩
  · rw [empty]
    rfl
  · rw [shape, List.map_append]
    refine List.rdropWhile_concat_neg isBlank (init.map change) (change last) ?_
    simp [visible last (isBlank_of_trim_eq_concat shape)]

/-- Trimming twice is trimming once. -/
@[simp] theorem trim_trim (text : List Char) : trim (trim text) = trim text := by
  have same : trim ((trim text).map id) = (trim text).map id :=
    trim_map_trim (fun _ visible => visible) text
  rwa [List.map_id] at same

@[simp] theorem trimmed_trimmed (text : String) : trimmed (trimmed text) = trimmed text := by
  rw [trimmed, toList_trimmed, trim_trim]
  rfl

/-- A text that neither begins nor ends with a blank character stays as it is. -/
theorem trim_eq_self
    {first last : Char}
    (visibleFirst : isBlank first = false)
    (visibleLast : isBlank last = false)
    (inside : List Char) :
    trim (first :: (inside ++ [last])) = first :: (inside ++ [last]) := by
  rw [trim, trimStart, List.dropWhile_cons_of_neg (by simp [visibleFirst])]
  exact List.rdropWhile_concat_neg isBlank (first :: inside) last (by simp [visibleLast])

/-- A text is blank exactly when nothing is left of it. -/
theorem isBlankText_iff (text : String) : isBlankText text = true ↔ trim text.toList = [] := by
  rw [trim_eq_nil_iff, isBlankText, List.all_eq_true]

end Text
end SyncWatch
