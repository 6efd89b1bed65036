/-!
# Searching and replacing

Occurrences of one text in another and the replacement of every occurrence,
taken from the left without overlap.
-/

namespace SyncWatch
namespace Text

/-- Whether `pattern` occurs somewhere in the text. -/
def occursIn (pattern : List Char) : List Char → Bool
  | [] => pattern.isEmpty
  | char :: rest => pattern.isPrefixOf (char :: rest) || occursIn pattern rest

/-- Whether a string occurs somewhere in another one. -/
def contains (text pattern : String) : Bool :=
  occursIn pattern.toList text.toList

/-- Whether a string begins with another one. -/
def startsWith (text beginning : String) : Bool :=
  beginning.toList.isPrefixOf text.toList

/-- Whether a string ends with another one. -/
def endsWith (text ending : String) : Bool :=
  ending.toList.isSuffixOf text.toList

/-- Replace the occurrences of `pattern`, leaving out the next `pending`
characters, which belong to an occurrence that was replaced already. -/
def replaceFrom (pattern replacement : List Char) : Nat → List Char → List Char
  | _, [] => []
  | pending + 1, _ :: rest => replaceFrom pattern replacement pending rest
  | 0, char :: rest =>
    if pattern.isPrefixOf (char :: rest) then
      replacement ++ replaceFrom pattern replacement (pattern.length - 1) rest
    else
      char :: replaceFrom pattern replacement 0 rest

/-- Replace every occurrence of a nonempty `pattern`. -/
def replaceAll (pattern replacement text : List Char) : List Char :=
  replaceFrom pattern replacement 0 text

/-- A string with every occurrence of a nonempty `pattern` replaced. -/
def replaced (pattern replacement text : String) : String :=
  String.ofList (replaceAll pattern.toList replacement.toList text.toList)

@[simp] theorem replaceAll_nil (pattern replacement : List Char) :
    replaceAll pattern replacement [] = [] := rfl

end Text
end SyncWatch
