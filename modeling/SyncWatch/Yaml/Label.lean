import SyncWatch.Yaml.Scalar

/-!
# Anchors, tags and directives

The marks that name a node or say of which type it is, and the lines in front
of a document.
-/

namespace SyncWatch
namespace Yaml

/-- Whether a character may follow the name of an anchor. -/
def endsAnchor : List Char → Bool
  | char :: rest => endsWord (char :: rest) || "?:,]\x7d%@\x60".toList.contains char
  | [] => true

/-- Read the name of an anchor or of a reference behind its sign. -/
def scanAnchor (source : Source) : Option (List Char × Source) :=
  let (name, after) := source.takeWhile isNameChar
  if name.isEmpty || !endsAnchor after.rest then none else some (name, after)

/-- Whether a character may stand in a tag.  Commas and brackets may only when
the tag is enclosed. -/
def isTagAddressChar (enclosed : Bool) (char : Char) : Bool :=
  isNameChar char || ";/?:@&=+$.%!~*()\x27".toList.contains char ||
    (enclosed && ",[]".toList.contains char)

/-- Whether a number is a byte that continues the code of a character. -/
def isContinuation (byte : Nat) : Bool :=
  0x80 ≤ byte && byte < 0xC0

/-- How many bytes continue the code of a character after its first byte. -/
def continuations? (byte : Nat) : Option Nat :=
  if byte < 0x80 then some 0
  else if byte < 0xC0 then none
  else if byte < 0xE0 then some 1
  else if byte < 0xF0 then some 2
  else if byte < 0xF8 then some 3
  else none

/-- The text of a tag, with its escaped bytes in place of their escapes.  The
number counts the bytes that have to follow as the rest of a character. -/
def unescapeTag : Nat → List Char → Option (List Char)
  | 0, [] => some []
  | _ + 1, [] => none
  | missing, '%' :: high :: low :: rest => do
    let byte := (← Text.hexDigit? high) * 16 + (← Text.hexDigit? low)
    let missing ←
      if missing == 0 then continuations? byte
      else if isContinuation byte then some (missing - 1)
      else none
    let tail ← unescapeTag missing rest
    return Char.ofNat byte :: tail
  | missing, char :: rest =>
    if missing == 0 && char != '%' then (unescapeTag 0 rest).map (char :: ·) else none

/-- Read the characters of a tag. -/
def scanTagAddress (enclosed : Bool) (source : Source) : Option (List Char × Source) := do
  let (written, after) := source.takeWhile (isTagAddressChar enclosed)
  return (← unescapeTag 0 written, after)

/-- Read the handle of a tag, the exclamation marks included when they are there. -/
def scanTagHandle (source : Source) : Option (List Char × Source) := do
  let behind ← source.expect '!'
  let (name, after) := behind.takeWhile isNameChar
  match after.expect '!' with
  | some closed => return ('!' :: name ++ ['!'], closed)
  | none => return ('!' :: name, after)

/-- Whether a handle stands for the beginning of an address. -/
def isClosedHandle (handle : List Char) : Bool :=
  1 < handle.length && handle.getLast? == some '!'

/-- Read the handle and the suffix of a tag without its end. -/
def scanTagParts (source : Source) : Option ((List Char × List Char) × Source) := do
  if source.behind.head? = some '<' then
    let (suffix, after) ← scanTagAddress true (source.advance 2)
    guard (!suffix.isEmpty)
    return (([], suffix), ← after.expect '>')
  else
    let (handle, behind) ← scanTagHandle source
    let (suffix, after) ← scanTagAddress false behind
    if isClosedHandle handle then
      guard (!suffix.isEmpty)
      return ((handle, suffix), after)
    else
      let suffix := handle.drop 1 ++ suffix
      return ((if suffix.isEmpty then ([], ['!']) else (['!'], suffix)), after)

/-- Read a tag, from its exclamation mark on. -/
def scanTag (flow : Bool) (source : Source) : Option ((List Char × List Char) × Source) := do
  let (parts, after) ← scanTagParts source
  if endsWord after.rest || (flow && after.head? = some ',') then some (parts, after) else none

/-- Read a number of at most nine digits. -/
def scanVersionNumber (source : Source) : Option (Nat × Source) :=
  let (digits, after) := source.takeWhile Char.isDigit
  if digits.isEmpty || 9 < digits.length then none
  else some (digits.foldl (fun number digit => number * 10 + (digit.toNat - '0'.toNat)) 0, after)

/-- Read the version behind the name of its directive. -/
def scanVersion (source : Source) : Option (TokenKind × Source) := do
  let (major, point) ← scanVersionNumber (source.dropWhile isSpace)
  let (minor, after) ← scanVersionNumber (← point.expect '.')
  return (.versionDirective major minor, after)

/-- Read the handle and the address that it stands for behind the name of their
directive. -/
def scanTagDirective (source : Source) : Option (TokenKind × Source) := do
  let (handle, behind) ← scanTagHandle (source.dropWhile isSpace)
  guard (handle.length == 1 || isClosedHandle handle)
  guard (behind.head?.any isSpace)
  let (stem, after) ← scanTagAddress true (behind.dropWhile isSpace)
  guard (!stem.isEmpty && endsWord after.rest)
  return (.tagDirective handle stem, after)

/-- Read a directive, from its percent sign on, with the rest of its line. -/
def scanDirective (source : Source) : Option (Token × Source) := do
  let (name, behind) := (source.advance 1).takeWhile isNameChar
  guard (!name.isEmpty && endsWord behind.rest)
  let (kind, after) ←
    if name == "YAML".toList then scanVersion behind
    else if name == "TAG".toList then scanTagDirective behind
    else none
  return (⟨kind, source.mark, after.mark⟩, ← after.endLine)

end Yaml
end SyncWatch
