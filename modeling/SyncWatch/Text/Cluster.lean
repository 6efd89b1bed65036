import SyncWatch.Text.ClusterTable
import SyncWatch.Text.Runs

/-!
# Characters that are drawn together

A text is divided into clusters, which a reader takes for one character each:
a letter with its marks, a syllable, a flag or a joined pictograph.
-/

namespace SyncWatch
namespace Text

/-- What a character does in a cluster. -/
inductive ClusterClass where
  | carriageReturn
  | lineFeed
  | control
  | extending
  | joiner
  | spacing
  | prepending
  /-- The beginning of a syllable. -/
  | leading
  | vowel
  | trailing
  /-- A syllable without an end. -/
  | openSyllable
  /-- A syllable with an end. -/
  | closedSyllable
  /-- One half of a flag. -/
  | regional
  | pictograph
  | other
  deriving DecidableEq, Repr

/-- The class of a syllable or of a part of one. -/
def syllableClass? (code : Nat) : Option ClusterClass :=
  if inRuns [(0x1100, 0x115F), (0xA960, 0xA97C)] code then some .leading
  else if inRuns [(0x1160, 0x11A7), (0xD7B0, 0xD7C6), (0x16D63, 0x16D63),
      (0x16D67, 0x16D6A)] code then
    some .vowel
  else if inRuns [(0x11A8, 0x11FF), (0xD7CB, 0xD7FB)] code then some .trailing
  else if inRuns [(0xAC00, 0xD7A3)] code then
    some (if (code - 0xAC00) % 28 == 0 then .openSyllable else .closedSyllable)
  else none

/-- The class of a character. -/
def clusterClass (char : Char) : ClusterClass :=
  let code := char.toNat
  if char == '\r' then .carriageReturn
  else if char == '\n' then .lineFeed
  else if code < 0x20 then .control
  else if code < 0x7F then .other
  else if code == 0x200D then .joiner
  else if inRuns [(0x1F1E6, 0x1F1FF)] code then .regional
  else
    match syllableClass? code with
    | some found => found
    | none =>
      if inRuns ClusterTable.controls code then .control
      else if inRuns ClusterTable.extending code then .extending
      else if inRuns ClusterTable.spacing code then .spacing
      else if inRuns ClusterTable.prepending code then .prepending
      else if inRuns ClusterTable.pictographs code then .pictograph
      else .other

/-- What the end of a cluster says about the next character. -/
structure ClusterEnd where
  last : ClusterClass
  /-- Whether the cluster ends with a pictograph and marks that extend it. -/
  pictured : Bool := false
  /-- Whether the cluster ends with a joiner behind a pictograph. -/
  joining : Bool := false
  /-- Whether the cluster ends with the first half of a flag. -/
  halfFlag : Bool := false
  /-- Whether the cluster ends with a consonant and marks that a linker can stand among. -/
  consonant : Bool := false
  /-- Whether one of these marks is a linker. -/
  linked : Bool := false

/-- Whether a character is a consonant that a linker can make one with another. -/
def isConsonant (char : Char) : Bool :=
  inRuns ClusterTable.consonants char.toNat

namespace ClusterEnd

/-- The end of a cluster of one character. -/
def start (char : Char) : ClusterEnd :=
  let last := clusterClass char
  { last
    pictured := last == .pictograph
    halfFlag := last == .regional
    consonant := isConsonant char }

/-- Whether the marks of syllables keep two classes together. -/
def isSyllable : ClusterClass → ClusterClass → Bool
  | .leading, next =>
    [.leading, .vowel, .openSyllable, .closedSyllable].contains next
  | .openSyllable, next | .vowel, next => [.vowel, .trailing].contains next
  | .closedSyllable, next | .trailing, next => next == .trailing
  | _, _ => false

/-- Whether a class is never drawn together with others. -/
def isAlone (found : ClusterClass) : Bool :=
  [.carriageReturn, .lineFeed, .control].contains found

/-- Whether a character belongs to the cluster. -/
def joins (state : ClusterEnd) (char : Char) : Bool :=
  let next := clusterClass char
  if state.last == .carriageReturn && next == .lineFeed then true
  else if isAlone state.last || isAlone next then false
  else
    isSyllable state.last next || [.extending, .joiner, .spacing].contains next ||
      state.last == .prepending || (state.joining && next == .pictograph) ||
      (state.halfFlag && next == .regional) ||
      (state.consonant && state.linked && isConsonant char)

/-- The end of the cluster with one more character.  The mark against joining
ends the run of marks behind a consonant. -/
def append (state : ClusterEnd) (char : Char) : ClusterEnd :=
  let next := clusterClass char
  let carries := (next == .extending && char != '\u200C') || next == .joiner
  { last := next
    pictured := next == .pictograph || (state.pictured && next == .extending)
    joining := state.pictured && next == .joiner
    halfFlag := !state.halfFlag && next == .regional
    consonant := isConsonant char || (state.consonant && carries)
    linked :=
      state.consonant && carries &&
        (state.linked || inRuns ClusterTable.linkers char.toNat) }

end ClusterEnd

/-- The clusters of a text behind the characters of an unfinished one, which are
given in reverse. -/
def clustersFrom : ClusterEnd → List Char → List Char → List (List Char)
  | _, begun, [] => [begun.reverse]
  | state, begun, char :: rest =>
    if state.joins char then clustersFrom (state.append char) (char :: begun) rest
    else begun.reverse :: clustersFrom (.start char) [char] rest

/-- The clusters of a text. -/
def clusters : List Char → List (List Char)
  | [] => []
  | char :: rest => clustersFrom (.start char) [char] rest

end Text
end SyncWatch
