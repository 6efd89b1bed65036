/-!
# White space

The Unicode property `White_Space` and the removal of white space at the two
ends of a text.  A zero-width space, a byte order mark and the information
separators do not have the property.
-/

namespace SyncWatch
namespace Text

/-- Whether a character has the Unicode property `White_Space`. -/
def isBlank (char : Char) : Bool :=
  let code := char.toNat
  (0x09 ≤ code && code ≤ 0x0D) || code == 0x20 || code == 0x85 || code == 0xA0 ||
    code == 0x1680 || (0x2000 ≤ code && code ≤ 0x200A) || code == 0x2028 || code == 0x2029 ||
    code == 0x202F || code == 0x205F || code == 0x3000

/-- The text without its leading white space. -/
def trimStart (text : List Char) : List Char :=
  text.dropWhile isBlank

/-- The text without its trailing white space. -/
def trimEnd (text : List Char) : List Char :=
  (text.reverse.dropWhile isBlank).reverse

/-- The text without the white space at its two ends. -/
def trim (text : List Char) : List Char :=
  trimEnd (trimStart text)

/-- A string without the white space at its two ends. -/
def trimmed (text : String) : String :=
  String.ofList (trim text.toList)

/-- Whether a string is empty or holds white space only. -/
def isBlankText (text : String) : Bool :=
  text.toList.all isBlank

@[simp] theorem toList_trimmed (text : String) :
    (trimmed text).toList = trim text.toList := by
  simp [trimmed]

@[simp] theorem trim_nil : trim [] = [] := rfl

end Text
end SyncWatch
