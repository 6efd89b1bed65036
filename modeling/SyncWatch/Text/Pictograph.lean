import SyncWatch.Text.PictographTable
import SyncWatch.Text.Runs

/-!
# Pictographs that are drawn as one

A picture of a person takes the colour behind it, two letters make a flag, and a
joiner makes one picture of two.  A text is read from its end on, and a tail is
what stands behind a character.
-/

namespace SyncWatch
namespace Text
namespace Pictograph

/-- The end of what may become one pictograph. -/
inductive Tail where
  /-- A coloured picture. -/
  | picture
  /-- A colour of skin. -/
  | colour
  /-- One letter of a flag. -/
  | letter
  /-- Two or more letters of flags. -/
  | letters
  /-- A joiner in front of a picture. -/
  | joined
  /-- A key in front of a joiner. -/
  | joinedKey
  /-- One letter of a flag in front of a joiner. -/
  | joinedLetter
  /-- An even number of letters in front of a joiner. -/
  | evenLetters
  /-- An odd number of letters, but not one, in front of a joiner. -/
  | oddLetters
  /-- The tags at the end of a flag in front of a joiner, and how many there are. -/
  | joinedTags (count : Nat)
  deriving DecidableEq, Repr

/-- Whether a code point is a letter of flags. -/
def isLetter (code : Nat) : Bool :=
  inRuns [(0x1F1E6, 0x1F1FF)] code

/-- Whether a code point is a colour of skin. -/
def isColour (code : Nat) : Bool :=
  inRuns [(0x1F3FB, 0x1F3FF)] code

/-- Whether a code point is a tag for a letter or a digit. -/
def isTag (code : Nat) : Bool :=
  inRuns [(0xE0030, 0xE0039), (0xE0061, 0xE007A)] code

/-- Whether a selector behind a character makes it a coloured picture. -/
def isSelectable (code : Nat) : Bool :=
  inRuns PictographTable.selectable code

/-- Whether a selector behind a coloured picture makes it a plain one of one
column.  Pictures of ideographs stay wide. -/
def canBePlain (code : Nat) : Bool :=
  isSelectable code && inRuns PictographTable.coloured code &&
    !inRuns [(0x1F200, 0x1F2FF)] code

/-- The tail that a character is on its own. -/
def Tail.ofCode? (code : Nat) : Option Tail :=
  if isLetter code then some .letter
  else if isColour code then some .colour
  else if inRuns PictographTable.coloured code then some .picture
  else none

/-- The fewest and the most tags that name a flag. -/
def tagCounts : Nat × Nat :=
  (3, 6)

namespace Tail

/-- What a character becomes in front of a joiner. -/
def joinTo? (code : Nat) : Option (Int × Tail) :=
  if code == 0x20E3 then some (0, .joinedKey)
  else if isLetter code then some (1, .joinedLetter)
  else if isColour code then some (0, .colour)
  else if code == 0xE007F then some (0, .joinedTags 0)
  else if inRuns PictographTable.coloured code then some (0, .picture)
  else none

/-- How many columns a character adds in front of a tail that it is drawn with,
and the tail of the two. -/
def prepend? (tail : Tail) (code : Nat) : Option (Int × Tail) :=
  match tail with
  | .colour =>
    if inRuns PictographTable.bases code then some (0, .picture)
    else if code == 0x200D then some (0, .joined)
    else none
  | .letter => if isLetter code then some (1, .letters) else none
  | .letters =>
    if isLetter code then some (1, .letters)
    else if code == 0x200D then some (0, .joined)
    else none
  | .picture => if code == 0x200D then some (0, .joined) else none
  | .joined => joinTo? code
  | .joinedKey => none
  | .joinedLetter => if isLetter code then some (-1, .evenLetters) else none
  | .evenLetters =>
    if isLetter code then some (3, .oddLetters)
    else if code == 0x200D then some (0, .joined)
    else none
  | .oddLetters =>
    if isLetter code then some (-1, .evenLetters)
    else if code == 0x200D then some (0, .joined)
    else none
  | .joinedTags count =>
    if isTag code && count < tagCounts.2 then some (0, .joinedTags (count + 1))
    else if code == 0x1F3F4 && tagCounts.1 ≤ count then some (0, .picture)
    else none

end Tail
end Pictograph
end Text
end SyncWatch
