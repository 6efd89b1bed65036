import SyncWatch.Text.UpperTable

/-!
# Letter case

The lower-case form that touches ASCII letters alone, and the full upper-case
form, in which one letter may become several.
-/

namespace SyncWatch
namespace Text

/-- The text with every ASCII capital replaced by its small letter. -/
def lowerAscii (text : String) : String :=
  String.ofList (text.toList.map Char.toLower)

/-- The upper-case form of one character. -/
def upperChar (char : Char) : List Char :=
  let code := char.toNat
  if code < 0x80 then
    [char.toUpper]
  else
    match UpperTable.expansions.find? (fun entry => entry.1 == code) with
    | some entry => entry.2.map Char.ofNat
    | none => [(ShiftedRun.counterpart? UpperTable.runs code).getD char]

/-- The text in upper case. -/
def upper (text : String) : String :=
  String.ofList (text.toList.flatMap upperChar)

end Text
end SyncWatch
