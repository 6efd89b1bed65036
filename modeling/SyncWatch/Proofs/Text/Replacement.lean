import SyncWatch.Text.Search

/-!
# Occurrences that are replaced

A replacement reads a text from the left.  Text that cannot begin an occurrence
stays as it is, and after an occurrence it goes on with the text behind it.
-/

namespace SyncWatch
namespace Text

variable {pattern : List Char}

/-- A character where no occurrence begins stays. -/
theorem replaceAll_cons_of_not_isPrefix
    {char : Char}
    (elsewhere : ¬ pattern <+: char :: rest)
    (replacement : List Char) :
    replaceAll pattern replacement (char :: rest) =
      char :: replaceAll pattern replacement rest := by
  rw [← List.isPrefixOf_iff_prefix] at elsewhere
  rw [replaceAll, replaceFrom, if_neg elsewhere, replaceAll]

/-- The rest of an occurrence is left out. -/
theorem replaceFrom_length_append
    (pattern replacement occurrence rest : List Char) :
    replaceFrom pattern replacement occurrence.length (occurrence ++ rest) =
      replaceAll pattern replacement rest := by
  induction occurrence with
  | nil => rfl
  | cons char others inductionHypothesis => exact inductionHypothesis

/-- An occurrence at the beginning is replaced. -/
theorem replaceAll_append_self
    (nonempty : pattern ≠ [])
    (replacement rest : List Char) :
    replaceAll pattern replacement (pattern ++ rest) =
      replacement ++ replaceAll pattern replacement rest := by
  obtain ⟨first, others, rfl⟩ := List.exists_cons_of_ne_nil nonempty
  have found : (first :: others).isPrefixOf (first :: (others ++ rest)) = true :=
    List.isPrefixOf_iff_prefix.mpr ⟨rest, rfl⟩
  rw [List.cons_append, replaceAll, replaceFrom, if_pos found, List.length_cons,
    Nat.add_sub_cancel, replaceFrom_length_append]

/-- Text without the first character of a pattern stays, whatever follows it. -/
theorem replaceAll_append_of_not_mem
    {first : Char}
    {text : List Char}
    (absent : first ∉ text)
    (pattern replacement rest : List Char) :
    replaceAll (first :: pattern) replacement (text ++ rest) =
      text ++ replaceAll (first :: pattern) replacement rest := by
  induction text with
  | nil => rfl
  | cons char others inductionHypothesis =>
      rw [List.mem_cons, not_or] at absent
      have elsewhere : ¬ first :: pattern <+: char :: (others ++ rest) := by
        rw [List.cons_prefix_cons]
        exact fun occurs => absent.1 occurs.1
      rw [List.cons_append, replaceAll_cons_of_not_isPrefix elsewhere, inductionHypothesis absent.2,
        List.cons_append]

/-- A text without some character of a pattern has no occurrence of it. -/
theorem replaceAll_of_not_mem
    {char : Char}
    {text : List Char}
    (needed : char ∈ pattern)
    (absent : char ∉ text)
    (replacement : List Char) :
    replaceAll pattern replacement text = text := by
  induction text with
  | nil => rfl
  | cons other rest inductionHypothesis =>
      have elsewhere : ¬ pattern <+: other :: rest := fun occurs => absent (occurs.subset needed)
      rw [replaceAll_cons_of_not_isPrefix elsewhere,
        inductionHypothesis fun present => absent (List.mem_cons_of_mem _ present)]

end Text
end SyncWatch
