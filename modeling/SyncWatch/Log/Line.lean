import SyncWatch.Text.Blank

/-!
# Log lines and their reassembly

Text arrives in pieces that need not end where lines end.  An assembler keeps
the unfinished line and emits a token for every finished one.  The reserved
line `::CLEAR::` asks for an empty log and is never shown.
-/

namespace SyncWatch
namespace Log

/-- What a finished line asks for. -/
inductive LogToken where
  /-- Show a line. -/
  | line (text : String)
  /-- Empty the log. -/
  | clear
  deriving DecidableEq, Repr

/-- The reserved text that asks for an empty log. -/
def sentinel : String := "::CLEAR::"

/-- Whether a text is the reserved one, apart from white space around it. -/
def isSentinel (text : List Char) : Bool :=
  Text.trim text == sentinel.toList

/-- The finished lines of a text, without their line feeds, and the rest. -/
def splitLines : List Char → List (List Char) × List Char
  | [] => ([], [])
  | char :: rest =>
    if char == '\n' then
      ([] :: (splitLines rest).1, (splitLines rest).2)
    else
      match splitLines rest with
      | ([], tail) => ([], char :: tail)
      | (line :: lines, tail) => ((char :: line) :: lines, tail)

/-- A line without one carriage return at its end. -/
def dropReturn (line : List Char) : List Char :=
  if line.getLast? = some '\r' then line.dropLast else line

/-- The token of a finished line without its line feed. -/
def LogToken.ofLine (line : List Char) : LogToken :=
  let content := dropReturn line
  if isSentinel content then .clear else .line (String.ofList content)

/-- The tokens that a piece of text finishes after an unfinished line, and the
unfinished line after it.  A piece that is the reserved text as a whole drops
the unfinished line. -/
def tokenize (pending chunk : List Char) : List LogToken × List Char :=
  if isSentinel chunk then
    ([.clear], [])
  else
    let split := splitLines (pending ++ chunk)
    (split.1.map LogToken.ofLine, split.2)

/-- The tokens of an unfinished line that will not be continued. -/
def flush (pending : List Char) : List LogToken :=
  let content := dropReturn pending
  if content.isEmpty then []
  else if isSentinel content then [.clear]
  else [.line (String.ofList content)]

/-- The unfinished line of a feed. -/
structure LineAssembler where
  pending : List Char := []
  deriving DecidableEq, Repr

namespace LineAssembler

/-- The tokens that a piece of text finishes. -/
def tokens (assembler : LineAssembler) (chunk : List Char) : List LogToken :=
  (tokenize assembler.pending chunk).1

/-- The assembler after a piece of text. -/
def push (assembler : LineAssembler) (chunk : List Char) : LineAssembler where
  pending := (tokenize assembler.pending chunk).2

/-- The assembler without an unfinished line. -/
def empty : LineAssembler := {}

end LineAssembler
end Log
end SyncWatch
