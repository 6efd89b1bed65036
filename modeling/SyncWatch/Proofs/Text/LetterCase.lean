import SyncWatch.Text.Blank
import SyncWatch.Text.LetterCase
import Mathlib.Data.List.Basic

/-!
# ASCII letters and their case

A change of case moves the code of an ASCII letter by a fixed distance and
leaves every other character as it is.  So capitals and small letters tell the
same characters apart, and a text of ASCII characters is changed one by one.
-/

namespace SyncWatch
namespace Text

theorem isUpper_iff_toNat (char : Char) :
    char.isUpper = true ↔ 65 ≤ char.toNat ∧ char.toNat ≤ 90 := by
  change decide (65 ≤ char.val ∧ char.val ≤ 90) = true ↔ _
  simp [UInt32.le_iff_toNat_le]

theorem isLower_iff_toNat (char : Char) :
    char.isLower = true ↔ 97 ≤ char.toNat ∧ char.toNat ≤ 122 := by
  change (decide (97 ≤ char.val) && decide (char.val ≤ 122)) = true ↔ _
  simp [UInt32.le_iff_toNat_le]

theorem isDigit_iff_toNat (char : Char) :
    char.isDigit = true ↔ 48 ≤ char.toNat ∧ char.toNat ≤ 57 := by
  change (decide (48 ≤ char.val) && decide (char.val ≤ 57)) = true ↔ _
  simp [UInt32.le_iff_toNat_le]

/-- A letter or digit is a capital, a small letter or a digit. -/
theorem isAlphanum_iff (char : Char) :
    char.isAlphanum = true ↔
      (char.isUpper = true ∨ char.isLower = true) ∨ char.isDigit = true := by
  change ((char.isUpper || char.isLower) || char.isDigit) = true ↔ _
  rw [Bool.or_eq_true, Bool.or_eq_true]

theorem toNat_toLower (char : Char) :
    char.toLower.toNat =
      if 65 ≤ char.toNat ∧ char.toNat ≤ 90 then char.toNat + 32 else char.toNat := by
  unfold Char.toLower
  split
  next capital =>
    have bounds : 65 ≤ char.toNat ∧ char.toNat ≤ 90 := by
      simpa [UInt32.le_iff_toNat_le] using capital
    rw [if_pos bounds, Char.toNat_mk, UInt32.toNat_add, Char.toNat_val]
    change (char.toNat + 32) % 4294967296 = char.toNat + 32
    omega
  next other =>
    have bounds : ¬(65 ≤ char.toNat ∧ char.toNat ≤ 90) := by
      simpa [UInt32.le_iff_toNat_le] using other
    rw [if_neg bounds]

theorem toNat_toUpper (char : Char) :
    char.toUpper.toNat =
      if 97 ≤ char.toNat ∧ char.toNat ≤ 122 then char.toNat - 32 else char.toNat := by
  unfold Char.toUpper
  split
  next small =>
    have bounds : 97 ≤ char.toNat ∧ char.toNat ≤ 122 := by
      simpa [UInt32.le_iff_toNat_le] using small
    rw [if_pos bounds, Char.toNat_mk, UInt32.toNat_add, Char.toNat_val]
    -- The distance is added in words, where it is the number that takes 32 away.
    change (char.toNat + 4294967264) % 4294967296 = char.toNat - 32
    omega
  next other =>
    have bounds : ¬(97 ≤ char.toNat ∧ char.toNat ≤ 122) := by
      simpa [UInt32.le_iff_toNat_le] using other
    rw [if_neg bounds]

/-- Characters have the same capital exactly when they have the same small letter. -/
theorem toUpper_eq_toUpper_iff (first second : Char) :
    first.toUpper = second.toUpper ↔ first.toLower = second.toLower := by
  rw [← Char.toNat_inj, ← Char.toNat_inj, toNat_toUpper, toNat_toUpper, toNat_toLower,
    toNat_toLower]
  split <;> split <;> split <;> split <;> omega

/-- Texts have the same capitals exactly when they have the same small letters. -/
theorem map_toUpper_eq_iff (first second : List Char) :
    first.map Char.toUpper = second.map Char.toUpper ↔
      first.map Char.toLower = second.map Char.toLower := by
  induction first generalizing second with
  | nil => simp
  | cons char rest inductionHypothesis =>
      cases second with
      | nil => simp
      | cons other others =>
          simp only [List.map_cons, List.cons.injEq, toUpper_eq_toUpper_iff,
            inductionHypothesis others]

/-- A small letter is not white space. -/
theorem isBlank_of_isLower
    {char : Char}
    (small : char.isLower = true) :
    isBlank char = false := by
  rw [isLower_iff_toNat] at small
  grind [isBlank]

theorem upperChar_of_toNat_lt
    {char : Char}
    (ascii : char.toNat < 0x80) :
    upperChar char = [char.toUpper] :=
  if_pos ascii

/-- The upper-case form of an ASCII text changes each letter by itself. -/
theorem toList_upper_of_ascii
    {text : String}
    (ascii : ∀ char ∈ text.toList, char.toNat < 0x80) :
    (upper text).toList = text.toList.map Char.toUpper := by
  rw [upper, String.toList_ofList, List.map_eq_flatMap]
  exact List.flatMap_congr fun char present => upperChar_of_toNat_lt (ascii char present)

end Text
end SyncWatch
