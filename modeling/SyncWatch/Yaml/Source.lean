/-!
# Text of a document and places in it

A document is read as a list of characters together with the place of the first
of them.  Line ends are written in several ways; all but two of them are made
one before anything is read.
-/

namespace SyncWatch
namespace Yaml

/-- A place in a document, counted from zero. -/
structure Mark where
  line : Nat := 0
  column : Nat := 0
  deriving DecidableEq, Repr

namespace Mark

/-- The place behind one character of a line. -/
def right (mark : Mark) : Mark :=
  { mark with column := mark.column + 1 }

/-- The place behind a number of characters of a line. -/
def advance (mark : Mark) (count : Nat) : Mark :=
  { mark with column := mark.column + count }

/-- The beginning of the next line. -/
def down (mark : Mark) : Mark where
  line := mark.line + 1
  column := 0

end Mark

/-- The rest of a document and its place. -/
structure Source where
  rest : List Char
  mark : Mark
  deriving DecidableEq, Repr

/-- Whether a character may stand in a document. -/
def isPermitted (char : Char) : Bool :=
  let code := char.toNat
  code == 0x09 || code == 0x0A || code == 0x0D || (0x20 ≤ code && code ≤ 0x7E) ||
    code == 0x85 || (0xA0 ≤ code && code ≤ 0xD7FF) || (0xE000 ≤ code && code ≤ 0xFFFD) ||
    0x10000 ≤ code

/-- The text with a carriage return, a carriage return with a line feed and the
character for a next line all replaced by a line feed. -/
def plainLineEnds : List Char → List Char
  | [] => []
  | '\r' :: '\n' :: rest => '\n' :: plainLineEnds rest
  | char :: rest =>
    (if char == '\r' || char == '\x85' then '\n' else char) :: plainLineEnds rest

/-- Whether a character ends a line.  The separators of lines and of paragraphs
do, and unlike other line ends they stay in scalars as they are. -/
def isBreak (char : Char) : Bool :=
  char == '\n' || char == '\u2028' || char == '\u2029'

/-- Whether a character is a space or a tab. -/
def isSpace (char : Char) : Bool :=
  char == ' ' || char == '\t'

/-- Whether a text is at its end, or at a space, a tab or a line end. -/
def endsWord : List Char → Bool
  | [] => true
  | char :: _ => isSpace char || isBreak char

/-- Whether a character may stand in a name. -/
def isNameChar (char : Char) : Bool :=
  char.isAlphanum || char == '_' || char == '-'

/-- Whether a text begins with three of the same character that stand alone. -/
def isTripled (char : Char) : List Char → Bool
  | first :: second :: third :: rest =>
    first == char && second == char && third == char && endsWord rest
  | _ => false

/-- Whether a line at a place begins or ends a document. -/
def isDocumentLine (mark : Mark) (text : List Char) : Bool :=
  mark.column == 0 && (isTripled '-' text || isTripled '.' text)

namespace Source

/-- The first character. -/
def head? (source : Source) : Option Char :=
  source.rest.head?

/-- The character behind the first one, and what follows. -/
def behind (source : Source) : List Char :=
  source.rest.drop 1

/-- The source behind a number of characters of a line. -/
def advance (source : Source) (count : Nat) : Source where
  rest := source.rest.drop count
  mark := source.mark.advance count

/-- The characters of a line that satisfy a condition, and the source behind them. -/
def takeWhile (source : Source) (condition : Char → Bool) : List Char × Source :=
  let taken := source.rest.takeWhile condition
  (taken, source.advance taken.length)

/-- The source behind the characters of a line that satisfy a condition. -/
def dropWhile (source : Source) (condition : Char → Bool) : Source :=
  (source.takeWhile condition).2

/-- The source behind a given character. -/
def expect (source : Source) (char : Char) : Option Source :=
  if source.head? = some char then some (source.advance 1) else none

/-- Behind spaces and a comment, the beginning of the next line; nothing else
may stand on the rest of the line. -/
def endLine (source : Source) : Option Source :=
  let blank := source.dropWhile isSpace
  let comment :=
    if blank.head? = some '#' then blank.dropWhile (fun char => !isBreak char) else blank
  match comment.rest with
  | [] => some comment
  | char :: rest => if isBreak char then some ⟨rest, comment.mark.down⟩ else none

end Source
end Yaml
end SyncWatch
