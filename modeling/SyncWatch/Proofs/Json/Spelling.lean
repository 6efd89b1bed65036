import SyncWatch.Json.Printer
import SyncWatch.Proofs.Json.Delimiters
import Mathlib.Tactic.IntervalCases

/-!
# Scalars as they are spelled

A scalar that was written is one token again, whatever stands behind it.  An
integer alone could go on, so a separator or the end of the text must follow it.
-/

namespace SyncWatch
namespace Json
namespace Token

/-! ## Strings -/

theorem hexDigit?_digitChar
    {digit : Nat}
    (single : digit < 16) :
    Text.hexDigit? (Nat.digitChar digit) = some digit := by
  interval_cases digit <;> rfl

/-- The last two digits of a small code make its character. -/
theorem scan_code
    (read rest : List Char)
    {code : Nat}
    (control : code < 0x20) :
    scan (.code read none 2 0)
        (Nat.digitChar (code / 16) :: Nat.digitChar (code % 16) :: rest) =
      scan (.text (Char.ofNat code :: read)) rest := by
  have high : Text.hexDigit? (Nat.digitChar (code / 16)) = some (code / 16) :=
    hexDigit?_digitChar (by omega)
  have low : Text.hexDigit? (Nat.digitChar (code % 16)) = some (code % 16) :=
    hexDigit?_digitChar (by omega)
  have whole : code / 16 * 16 + code % 16 = code := by omega
  have finished : finishCode read none code = ([], some (.text (Char.ofNat code :: read))) := by
    have noTrail : ¬(0xDC00 ≤ code ∧ code ≤ 0xDFFF) := by omega
    have noLead : ¬(0xD800 ≤ code ∧ code ≤ 0xDBFF) := by omega
    rw [finishCode, if_neg noTrail, if_neg noLead]
  simp [scan, Progress.step, high, low, whole, finished]

/-- A character inside a string is read as it was before it was escaped. -/
theorem scan_escapeChar (read rest : List Char) (char : Char) :
    scan (.text read) (escapeChar char ++ rest) = scan (.text (char :: read)) rest := by
  rw [escapeChar.eq_def]
  split
  · rfl
  · rfl
  · rfl
  · rfl
  · rfl
  · rfl
  · rfl
  next noQuote noBackslash _ _ _ _ _ =>
    split
    next control =>
      have coded := scan_code read rest control
      rw [Char.ofNat_toNat] at coded
      exact coded
    next printable =>
      have notQuote : (char == '"') = false := beq_eq_false_iff_ne.mpr noQuote
      have notBackslash : (char == '\\') = false := beq_eq_false_iff_ne.mpr noBackslash
      simp [scan, Progress.step, notQuote, notBackslash, printable]

theorem scan_escaped (read text rest : List Char) :
    scan (.text read) (text.flatMap escapeChar ++ '"' :: rest) =
      .string (String.ofList (read.reverse ++ text)) :: scan .between rest := by
  induction text generalizing read with
  | nil =>
      rw [List.append_nil]
      rfl
  | cons char text inductionHypothesis =>
      rw [List.flatMap_cons, List.append_assoc, scan_escapeChar, inductionHypothesis,
        List.reverse_cons, List.append_assoc]
      rfl

theorem scan_stringText (text : String) (rest : List Char) :
    scan .between (stringText text ++ rest) = .string text :: scan .between rest := by
  have opened : scan .between (stringText text ++ rest) =
      scan (.text []) (text.toList.flatMap escapeChar ++ '"' :: rest) := by
    rw [stringText, List.append_assoc]
    rfl
  rw [opened, scan_escaped, List.reverse_nil, List.nil_append, String.ofList_toList]

/-! ## Integers -/

/-- What may stand behind a value: nothing, a comma or the end of a container. -/
def Separates (rest : List Char) : Prop :=
  ∀ char ∈ rest.head?, char ∈ [',', ']', '\x7d']

theorem Separates.nil : Separates [] := nofun

theorem Separates.cons
    {char : Char}
    (separator : char ∈ [',', ']', '\x7d'])
    (rest : List Char) :
    Separates (char :: rest) := by
  intro first same
  rwa [← Option.some.inj same]

/-- Where a number with a given sign has its first digit. -/
def Progress.ofSign (negative : Bool) : Progress :=
  if negative then .number true .sign else .between

open Numeral (Phase)

theorem digit?_digitChar
    {digit : Nat}
    (single : digit < 10) :
    digit? (Nat.digitChar digit) = some digit := by
  interval_cases digit <;> rfl

theorem scan_firstDigit
    (negative : Bool)
    {digit : Nat}
    (single : digit < 10)
    (rest : List Char) :
    scan (.ofSign negative) (Nat.digitChar digit :: rest) =
      scan (.number negative (if digit = 0 then .zero else .whole digit)) rest := by
  cases negative <;> interval_cases digit <;> rfl

theorem scan_nextDigit
    (negative : Bool)
    {significand digit : Nat}
    (single : digit < 10)
    (kept : significand * 10 + digit ≤ Numeral.largestSignificand)
    (rest : List Char) :
    scan (.number negative (.whole significand)) (Nat.digitChar digit :: rest) =
      scan (.number negative (.whole (significand * 10 + digit))) rest := by
  simp [scan, Progress.step, Phase.extend, digit?_digitChar single, Numeral.wholeDigit,
    Nat.not_lt.mpr kept]

/-- The digits of a number that is kept exactly add up to it. -/
theorem scan_toDigits
    (negative : Bool)
    {number : Nat}
    (positive : 0 < number)
    (kept : number ≤ Numeral.largestSignificand)
    (rest : List Char) :
    scan (.ofSign negative) (Nat.toDigits 10 number ++ rest) =
      scan (.number negative (.whole number)) rest := by
  induction number using Nat.strongRecOn generalizing rest with
  | ind number inductionHypothesis =>
      by_cases single : number < 10
      · rw [Nat.toDigits_of_lt_base single, List.singleton_append, scan_firstDigit _ single,
          if_neg positive.ne']
      · have shorter := inductionHypothesis (number / 10) (by omega) (by omega) (by omega)
          (Nat.digitChar (number % 10) :: rest)
        have whole : number / 10 * 10 + number % 10 = number := by omega
        rw [Nat.toDigits_of_base_le (by decide) (by omega), List.append_assoc,
          List.singleton_append, shorter,
          scan_nextDigit _ (Nat.mod_lt _ (by decide)) (by omega), whole]

/-- A separator ends a whole number. -/
theorem scan_number_of_separates
    {rest : List Char}
    (separates : Separates rest)
    (negative : Bool)
    {phase : Phase}
    {significand : Nat}
    (whole : phase = .zero ∧ significand = 0 ∨ phase = .whole significand) :
    scan (.number negative phase) rest =
      .number (Numeral.ofWhole negative significand) :: scan .between rest := by
  cases rest with
  | nil => rcases whole with ⟨rfl, rfl⟩ | rfl <;> rfl
  | cons char rest =>
      have separator := separates char rfl
      simp only [List.mem_cons, List.not_mem_nil, or_false] at separator
      rcases whole with ⟨rfl, rfl⟩ | rfl <;> rcases separator with rfl | rfl | rfl <;> rfl

theorem scan_natural
    (number : Nat)
    (kept : number ≤ Numeral.largestSignificand)
    {rest : List Char}
    (separates : Separates rest) :
    scan .between (Nat.toDigits 10 number ++ rest) =
      .number (.integer number) :: scan .between rest := by
  rcases Nat.eq_zero_or_pos number with rfl | positive
  · exact scan_number_of_separates separates false (.inl ⟨rfl, rfl⟩)
  · exact (scan_toDigits false positive kept rest).trans
      (scan_number_of_separates separates false (.inr rfl))

/-- A negative integer that is kept exactly is no floating point number. -/
theorem ofWhole_of_pos
    {number : Nat}
    (positive : 0 < number)
    (kept : number ≤ Numeral.largestNegative) :
    Numeral.ofWhole true number = .integer (-number) := by
  have integral : ¬(number == 0 || decide (Numeral.largestNegative < number)) = true := by
    simp [positive.ne', kept]
  rw [Numeral.ofWhole, if_pos rfl, if_neg integral]

theorem scan_negative
    {number : Nat}
    (positive : 0 < number)
    (kept : number ≤ Numeral.largestNegative)
    {rest : List Char}
    (separates : Separates rest) :
    scan .between ('-' :: Nat.toDigits 10 number ++ rest) =
      .number (.integer (-number)) :: scan .between rest := by
  have keptWhole : number ≤ Numeral.largestSignificand := kept.trans (by decide)
  have signed := scan_toDigits true positive keptWhole rest
  rw [scan_number_of_separates separates true (.inr rfl), ofWhole_of_pos positive kept] at signed
  exact signed

/-- An integer of 64 bits, with or without a sign, keeps its exact value. -/
theorem scan_integer
    {value : Int}
    (held : Word.holdsEither 64 value = true)
    {rest : List Char}
    (separates : Separates rest) :
    scan .between ((Number.integer value).text.toList ++ rest) =
      .number (.integer value) :: scan .between rest := by
  rw [Word.holdsEither, Bool.and_eq_true, decide_eq_true_iff, decide_eq_true_iff] at held
  cases value with
  | ofNat number =>
      have digits : (Number.integer (.ofNat number)).text.toList = Nat.toDigits 10 number :=
        Nat.toList_repr
      rw [digits]
      exact scan_natural number (Nat.le_sub_one_of_lt (Int.ofNat_lt.mp held.2)) separates
  | negSucc number =>
      have digits : (Number.integer (.negSucc number)).text.toList =
          '-' :: Nat.toDigits 10 (number + 1) := by
        change ("-" ++ Nat.repr (number + 1)).toList = _
        rw [String.toList_append, Nat.toList_repr]
        rfl
      have kept : number + 1 ≤ Numeral.largestNegative := by
        have least : -((Word.size 63 : Nat) : Int) ≤ Int.negSucc number := held.1
        change number + 1 ≤ Word.size 63
        omega
      rw [digits]
      exact scan_negative (Nat.succ_pos number) kept separates

end Token
end Json
end SyncWatch
