import SyncWatch.Text.EscapedTable
import SyncWatch.Text.Runs

/-!
# Quoted texts in messages

A message shows a text between double quotes.  Quotes and backslashes are
escaped with a backslash, and a character that would not be visible is written
by its code point, as in `\u{a0}`.
-/

namespace SyncWatch
namespace Text
namespace Quoted

/-- Whether a character is shown by its code point. -/
def isEscaped (char : Char) : Bool :=
  let code := char.toNat
  if code < 0x7F then
    code < 0x20
  else
    inRuns EscapedTable.runs code

/-- How one character is shown between the quotes. -/
def escapeChar (char : Char) : List Char :=
  match char with
  | '\x00' => ['\\', '0']
  | '\t' => ['\\', 't']
  | '\n' => ['\\', 'n']
  | '\r' => ['\\', 'r']
  | '"' => ['\\', '"']
  | '\\' => ['\\', '\\']
  | char =>
    if isEscaped char then
      ['\\', 'u', '\x7b'] ++ Nat.toDigits 16 char.toNat ++ ['\x7d']
    else
      [char]

/-- The text between quotes. -/
def quote (text : String) : String :=
  String.ofList ('"' :: text.toList.flatMap escapeChar ++ ['"'])

end Quoted
end Text
end SyncWatch
