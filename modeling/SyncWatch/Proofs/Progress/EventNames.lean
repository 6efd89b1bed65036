import SyncWatch.Progress.Machine
import SyncWatch.Proofs.Text.LetterCase
import SyncWatch.Proofs.Text.Trim

/-!
# Events under their normal names

The normal form of a name is a normal form already: no character of it becomes
blank or a separator, so nothing is left to trim or to replace.  What an event
means for progress depends on its name through the normal form alone, so the
event means the same when it is sent under that form.
-/

namespace SyncWatch

namespace Progress

theorem normalChar_of_isLower
    {char : Char}
    (small : char.isLower = true) :
    normalChar char = char := by
  have noSeparator : ¬(char == ':' || char == '_' || char == ' ') = true := by
    simp only [Bool.or_eq_true, beq_iff_eq]
    rintro ((rfl | rfl) | rfl) <;> exact absurd small (by decide)
  rw [Text.isLower_iff_toNat] at small
  rw [normalChar, if_neg noSeparator, ← Char.toNat_inj, Text.toNat_toLower, if_neg (by omega)]

/-- The normal form of a character is a hyphen, a small letter or the character
itself. -/
theorem normalChar_cases (char : Char) :
    normalChar char = '-' ∨ (normalChar char).isLower = true ∨ normalChar char = char := by
  rw [normalChar]
  split
  · exact .inl rfl
  · by_cases capital : 65 ≤ char.toNat ∧ char.toNat ≤ 90
    · refine .inr (.inl ?_)
      rw [Text.isLower_iff_toNat, Text.toNat_toLower, if_pos capital]
      omega
    · refine .inr (.inr ?_)
      rw [← Char.toNat_inj, Text.toNat_toLower, if_neg capital]

@[simp] theorem normalChar_normalChar (char : Char) :
    normalChar (normalChar char) = normalChar char := by
  rcases normalChar_cases char with hyphen | small | same
  · rw [hyphen]
    decide
  · exact normalChar_of_isLower small
  · rw [same, same]

/-- The normal form of a character that is not blank is not blank either. -/
theorem isBlank_normalChar
    {char : Char}
    (visible : Text.isBlank char = false) :
    Text.isBlank (normalChar char) = false := by
  rcases normalChar_cases char with hyphen | small | same
  · rw [hyphen]
    decide
  · exact Text.isBlank_of_isLower small
  · rw [same, visible]

theorem toList_normalName (name : String) :
    (normalName name).toList = (Text.trim name.toList).map normalChar :=
  String.toList_ofList

/-- A normal name is its own normal form. -/
@[simp] theorem normalName_normalName (name : String) :
    normalName (normalName name) = normalName name := by
  rw [normalName, toList_normalName, Text.trim_map_trim fun _ => isBlank_normalChar, List.map_map]
  have again : normalChar ∘ normalChar = normalChar := funext normalChar_normalChar
  rw [again, normalName]

namespace SyncEvent

/-- The event under the normal form of its name. -/
def withNormalName (event : SyncEvent) : SyncEvent :=
  { event with name := normalName event.name }

@[simp] theorem name_withNormalName (event : SyncEvent) :
    event.withNormalName.name = normalName event.name := rfl

@[simp] theorem fraction_withNormalName (event : SyncEvent) :
    event.withNormalName.fraction = event.fraction := rfl

@[simp] theorem kind_withNormalName (event : SyncEvent) :
    event.withNormalName.kind = event.kind := by
  rw [kind, name_withNormalName, normalName_normalName]
  rfl

end SyncEvent

namespace ProgressState

/-- An event does the same to progress under its normal name, and progress
depends on it there exactly when it depends on it here. -/
@[simp] theorem afterEvent?_withNormalName (state : ProgressState) (event : SyncEvent) :
    state.afterEvent? event.withNormalName = state.afterEvent? event := by
  rw [afterEvent?, afterEvent?, SyncEvent.kind_withNormalName, SyncEvent.fraction_withNormalName]

theorem afterEvent_withNormalName (state : ProgressState) (event : SyncEvent) :
    state.afterEvent event.withNormalName = state.afterEvent event := by
  rw [afterEvent, afterEvent, afterEvent?_withNormalName]

end ProgressState

namespace ProgressMonitor

/-- The display is told the same of an event under its normal name. -/
theorem apply_withNormalName (monitor : ProgressMonitor) (event : SyncEvent) :
    monitor.apply (.event event.withNormalName) = monitor.apply (.event event) := by
  have told : monitor.concerns (.event event.withNormalName) = monitor.concerns (.event event) := by
    rw [concerns, concerns, ProgressState.afterEvent?_withNormalName]
  have reached : monitor.state.afterPayload (.event event.withNormalName) =
      monitor.state.afterPayload (.event event) :=
    monitor.state.afterEvent_withNormalName event
  rw [apply, apply, told, reached]

end ProgressMonitor
end Progress
end SyncWatch
