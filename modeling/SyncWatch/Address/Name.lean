import SyncWatch.Address.NameTable
import SyncWatch.Address.Punycode
import SyncWatch.Text.Cluster
import SyncWatch.Text.Quoted

/-!
# Names of hosts

A name is compared without regard to case and to the form of its letters, and a
label of it with characters beyond ASCII is written in Punycode.
-/

namespace SyncWatch
namespace Address

/-- Whether a character beyond ASCII may not stand in a name. -/
def isRefusedInName (char : Char) : Bool :=
  let code := char.toNat
  Text.inRuns NameTable.refused code ||
    (Text.Quoted.isEscaped char && !Text.inRuns Text.ClusterTable.extending code)

/-- What a character stands for in a name. -/
def plainNameChar? (char : Char) : Option (List Char) :=
  if char.toNat < Punycode.firstCode then some [char.toLower]
  else if Text.inRuns NameTable.ignored char.toNat then some []
  else
    match Text.ShiftedRun.counterpart? NameTable.plainForms char.toNat with
    | some plain => some [plain]
    | none => if isRefusedInName char then none else some [char]

/-- What stands in front of the Punycode of a label. -/
def codedMark : List Char :=
  "xn--".toList

/-- Whether all characters are ASCII. -/
def isAsciiText (text : List Char) : Bool :=
  text.all fun char => char.toNat < Punycode.firstCode

/-- Whether a label may stand in a name: its characters stand for themselves, and
it does not begin with a mark. -/
def isPlainLabel (label : List Char) : Bool :=
  (label.all fun char => plainNameChar? char == some [char]) &&
    !label.head?.any fun char =>
      Text.inRuns Text.ClusterTable.extending char.toNat ||
        Text.inRuns Text.ClusterTable.spacing char.toNat

/-- A label in ASCII.  One that is in Punycode already has to stand for a label
that needs it. -/
def labelText? (label : List Char) : Option (List Char) :=
  if isAsciiText label then
    if codedMark.isPrefixOf label then do
      let decoded ← Punycode.decode? (label.drop codedMark.length)
      guard (isPlainLabel decoded && !isAsciiText decoded)
      return label
    else
      some label
  else if isPlainLabel label then
    some (codedMark ++ Punycode.encode label)
  else
    none

/-- A name in ASCII and in small letters. -/
def nameText? (name : List Char) : Option (List Char) := do
  let plain := (← name.mapM plainNameChar?).flatten
  let labels ← (plain.splitOn '.').mapM labelText?
  return List.intercalate ['.'] labels

end Address
end SyncWatch
