import SyncWatch.Decimal.Text
import SyncWatch.Json.Basic

/-!
# Writing JSON values

The compact form: no white space, members in their order, and in strings only
those characters escaped that must be.
-/

namespace SyncWatch
namespace Json

/-- The text of a number; one that is not finite has no text and is `null`. -/
def floatText (value : Float) : String :=
  (Decimal.compactText? value).getD "null"

/-- The text of a number. -/
def Number.text : Number → String
  | .integer value => toString value
  | .float value => floatText value

/-- How one character is written inside a string. -/
def escapeChar (char : Char) : List Char :=
  match char with
  | '"' => ['\\', '"']
  | '\\' => ['\\', '\\']
  | '\x08' => ['\\', 'b']
  | '\x0c' => ['\\', 'f']
  | '\n' => ['\\', 'n']
  | '\r' => ['\\', 'r']
  | '\t' => ['\\', 't']
  | char =>
    if char.toNat < 0x20 then
      ['\\', 'u', '0', '0', Nat.digitChar (char.toNat / 16), Nat.digitChar (char.toNat % 16)]
    else
      [char]

/-- A string with its quotes. -/
def stringText (text : String) : List Char :=
  '"' :: text.toList.flatMap escapeChar ++ ['"']

/-- Texts with a comma between each two of them. -/
def joinWithCommas : List (List Char) → List Char
  | [] => []
  | [text] => text
  | text :: rest => text ++ ',' :: joinWithCommas rest

mutual

/-- The characters of a value. -/
def Value.chars : Value → List Char
  | .null => ['n', 'u', 'l', 'l']
  | .bool true => ['t', 'r', 'u', 'e']
  | .bool false => ['f', 'a', 'l', 's', 'e']
  | .number number => number.text.toList
  | .string text => stringText text
  | .array items => '[' :: joinWithCommas (itemChars items) ++ [']']
  | .object members => '\x7b' :: joinWithCommas (memberChars members) ++ ['\x7d']
termination_by structural value => value

/-- The characters of each item of an array. -/
def itemChars : List Value → List (List Char)
  | [] => []
  | item :: rest => item.chars :: itemChars rest
termination_by structural items => items

/-- The characters of each member of an object. -/
def memberChars : List (String × Value) → List (List Char)
  | [] => []
  | (key, value) :: rest => (stringText key ++ ':' :: value.chars) :: memberChars rest
termination_by structural members => members

end

/-- The compact text of a value. -/
def Value.text (value : Value) : String :=
  String.ofList value.chars

end Json
end SyncWatch
