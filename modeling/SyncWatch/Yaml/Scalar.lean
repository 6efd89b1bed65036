import SyncWatch.Text.Digit
import SyncWatch.Yaml.Token

/-!
# Scalars

The text of plain, quoted and block scalars.  Inside plain and quoted scalars
one line end becomes a space, and of several the first is dropped.
-/

namespace SyncWatch
namespace Yaml

/-- The spaces and line ends between two words of a scalar. -/
structure Gap where
  spaces : List Char := []
  /-- Whether a line ended; from then on spaces do not count. -/
  broken : Bool := false
  /-- The first line end, if it counts. -/
  first : List Char := []
  /-- The line ends after the first one. -/
  more : List Char := []

namespace Gap

/-- The gap with one more space. -/
def space (gap : Gap) (char : Char) : Gap :=
  if gap.broken then gap else { gap with spaces := gap.spaces ++ [char] }

/-- The gap with one more line end. -/
def lineEnd (gap : Gap) (char : Char) : Gap :=
  if gap.broken then { gap with more := gap.more ++ [char] }
  else { broken := true, first := [char] }

/-- Line ends of which the first is to leave no trace. -/
def joined : Gap :=
  { broken := true }

/-- What a gap becomes in the text of the scalar. -/
def text (gap : Gap) : List Char :=
  if gap.broken then
    if gap.first = ['\n'] then
      if gap.more.isEmpty then [' '] else gap.more
    else
      gap.first ++ gap.more
  else
    gap.spaces

/-- Whether there is no gap. -/
def isEmpty (gap : Gap) : Bool :=
  !gap.broken && gap.spaces.isEmpty

end Gap

/-- A scalar that was read, what follows it, and whether a line ended behind it. -/
structure ScannedScalar where
  text : List Char
  after : Source
  broken : Bool := false

/-- Whether a character separates the entries of flow collections. -/
def isFlowMark (char : Char) : Bool :=
  char == ',' || char == '[' || char == ']' || char == '\x7b' || char == '\x7d'

/-- Whether a plain scalar ends before a character and what follows it. -/
def endsPlain (flow : Bool) (char : Char) (rest : List Char) : Bool :=
  (char == ':' && endsWord rest) || (flow && isFlowMark char)

/-- Whether a colon stands where a flow collection forbids it in plain scalars. -/
def isMisplacedColon (flow : Bool) (char : Char) (rest : List Char) : Bool :=
  flow && char == ':' &&
    (match rest with
      | next :: _ => next == '?' || isFlowMark next
      | [] => false)

/-- Whether a plain scalar ends before the first word of a line or behind spaces. -/
def endsBeforeWord (flow : Bool) (indent : Nat) (mark : Mark) (gap : Gap) (text : List Char) :
    Bool :=
  (!gap.isEmpty && !flow && mark.column < indent) || isDocumentLine mark text ||
    text.head? = some '#'

/-- Read a plain scalar whose characters so far are given in reverse.  Outside
flow collections its lines are indented by at least `indent` spaces. -/
def plainFrom (flow : Bool) (indent : Nat) :
    List Char → Mark → Gap → List Char → Option ScannedScalar
  | [], mark, gap, read => some ⟨read.reverse, ⟨[], mark⟩, gap.broken⟩
  | char :: rest, mark, gap, read =>
    if isSpace char then
      if gap.broken && mark.column < indent && char == '\t' then none
      else plainFrom flow indent rest mark.right (gap.space char) read
    else if isBreak char then
      plainFrom flow indent rest mark.down (gap.lineEnd char) read
    else
      let finished : ScannedScalar := ⟨read.reverse, ⟨char :: rest, mark⟩, gap.broken⟩
      if (read.isEmpty || !gap.isEmpty) && endsBeforeWord flow indent mark gap (char :: rest) then
        some finished
      else if isMisplacedColon flow char rest then none
      else if endsPlain flow char rest then some finished
      else plainFrom flow indent rest mark.right {} (char :: (gap.text.reverse ++ read))

/-- Read a plain scalar. -/
def scanPlain (flow : Bool) (indent : Nat) (source : Source) : Option ScannedScalar :=
  plainFrom flow indent source.rest source.mark {} []

/-- Read a scalar in single quotes behind the first of them.  Two quotes stand
for one. -/
def singleQuotedFrom : List Char → Mark → Gap → List Char → Option ScannedScalar
  | [], _, _, _ => none
  | '\x27' :: '\x27' :: rest, mark, gap, read =>
    singleQuotedFrom rest (mark.advance 2) {} ('\x27' :: (gap.text.reverse ++ read))
  | char :: rest, mark, gap, read =>
    if isSpace char then singleQuotedFrom rest mark.right (gap.space char) read
    else if isBreak char then singleQuotedFrom rest mark.down (gap.lineEnd char) read
    else if isDocumentLine mark (char :: rest) then none
    else if char == '\x27' then
      some ⟨(gap.text.reverse ++ read).reverse, ⟨rest, mark.right⟩, false⟩
    else singleQuotedFrom rest mark.right {} (char :: (gap.text.reverse ++ read))

/-- What a backslash and a character stand for. -/
inductive Escape where
  | char (char : Char)
  /-- A number of hexadecimal digits follow. -/
  | code (digits : Nat)

/-- The escapes of double quotes. -/
def escapes : List (Char × Escape) :=
  [('0', .char '\x00'), ('a', .char '\x07'), ('b', .char '\x08'), ('t', .char '\t'),
    ('\t', .char '\t'), ('n', .char '\n'), ('v', .char '\x0B'), ('f', .char '\x0C'),
    ('r', .char '\r'), ('e', .char '\x1B'), (' ', .char ' '), ('"', .char '"'),
    ('/', .char '/'), ('\\', .char '\\'), ('N', .char '\x85'), ('_', .char '\xA0'),
    ('L', .char '\u2028'), ('P', .char '\u2029'), ('x', .code 2), ('u', .code 4),
    ('U', .code 8)]

/-- The character with a code, unless there is none. -/
def charOfCode? (code : Nat) : Option Char :=
  if (0xD800 ≤ code ∧ code ≤ 0xDFFF) ∨ 0x10FFFF < code then none else some (Char.ofNat code)

/-- Read a scalar in double quotes behind the first of them.  The number counts
the hexadecimal digits of a code that are still missing, and `code` is the
value of those that were read. -/
def doubleQuotedFrom : Nat → Nat → List Char → Mark → Gap → List Char → Option ScannedScalar
  | _, _, [], _, _, _ => none
  | missing + 1, code, char :: rest, mark, gap, read => do
    let digit ← Text.hexDigit? char
    let code := code * 16 + digit
    if missing == 0 then
      let char ← charOfCode? code
      doubleQuotedFrom 0 0 rest mark.right {} (char :: read)
    else
      doubleQuotedFrom missing code rest mark.right gap read
  | 0, _, '\\' :: char :: rest, mark, gap, read =>
    let read := gap.text.reverse ++ read
    if isBreak char then
      doubleQuotedFrom 0 0 rest mark.down .joined read
    else
      match escapes.lookup char with
      | some (.char char) => doubleQuotedFrom 0 0 rest (mark.advance 2) {} (char :: read)
      | some (.code digits) => doubleQuotedFrom digits 0 rest (mark.advance 2) {} read
      | none => none
  | 0, _, char :: rest, mark, gap, read =>
    if isSpace char then doubleQuotedFrom 0 0 rest mark.right (gap.space char) read
    else if isBreak char then doubleQuotedFrom 0 0 rest mark.down (gap.lineEnd char) read
    else if isDocumentLine mark (char :: rest) then none
    else if char == '"' then
      some ⟨(gap.text.reverse ++ read).reverse, ⟨rest, mark.right⟩, false⟩
    else doubleQuotedFrom 0 0 rest mark.right {} (char :: (gap.text.reverse ++ read))

/-- Read a quoted scalar, from its first quote on. -/
def scanQuoted (style : ScalarStyle) (source : Source) : Option ScannedScalar :=
  let behind := source.advance 1
  if style == .singleQuoted then singleQuotedFrom behind.rest behind.mark {} []
  else doubleQuotedFrom 0 0 behind.rest behind.mark {} []

/-- What happens to the line ends behind a block scalar. -/
inductive Chomping where
  /-- None of them count. -/
  | strip
  /-- The first of them counts. -/
  | clip
  /-- All of them count. -/
  | keep
  deriving DecidableEq, Repr

/-- The first line of a block scalar. -/
structure BlockHeader where
  chomping : Chomping := .clip
  /-- The indentation relative to the surrounding collection, when it is given. -/
  indent : Option Nat := none

/-- The sign that chooses what happens to line ends. -/
def chomping? : Char → Option Chomping
  | '+' => some .keep
  | '-' => some .strip
  | _ => none

/-- Read the two signs that may follow the indicator, in either order. -/
def scanBlockHeader (source : Source) : Option (BlockHeader × Source) :=
  let chomping (source : Source) : Option Chomping × Source :=
    match source.head?.bind chomping? with
    | some found => (some found, source.advance 1)
    | none => (none, source)
  let indent (source : Source) : Option Nat × Source :=
    match source.head? with
    | some char =>
      if char.isDigit then (some (char.toNat - '0'.toNat), source.advance 1) else (none, source)
    | none => (none, source)
  let first := chomping source
  let middle := indent first.2
  let last := if first.1.isSome then (none, middle.2) else chomping middle.2
  if middle.1 = some 0 then none
  else
    let found := (first.1 <|> last.1).getD .clip
    last.2.endLine.map fun after => ({ chomping := found, indent := middle.1 }, after)

/-- What was read of a block scalar. -/
structure BlockState where
  folded : Bool
  chomping : Chomping
  /-- The indentation of the text; it is unknown before the first line of text. -/
  indent : Option Nat
  /-- The smallest indentation that the text can have. -/
  leastIndent : Nat
  /-- Whether the place is in the text of a line and not in its indentation. -/
  inLine : Bool := false
  /-- The characters that were read, in reverse. -/
  read : List Char := []
  /-- Whether the last line began with a space. -/
  spaced : Bool := false
  /-- The end of the last line. -/
  lineEnd : List Char := []
  /-- The ends of the empty lines after it. -/
  emptyLines : List Char := []

namespace BlockState

/-- The state at the beginning of a line of text, which may begin with a space.
Between two lines that do not, one line end becomes a space. -/
def beginLine (state : BlockState) (spaced : Bool) : BlockState :=
  let folds := state.folded && state.lineEnd == ['\n'] && !state.spaced && !spaced
  let joint :=
    if folds then (if state.emptyLines.isEmpty then [' '] else []) else state.lineEnd
  { state with
    inLine := true
    read := (joint ++ state.emptyLines).reverse ++ state.read
    spaced
    lineEnd := []
    emptyLines := [] }

/-- The text of the scalar when no line follows. -/
def text (state : BlockState) : List Char :=
  let tail :=
    match state.chomping with
    | .strip => []
    | .clip => state.lineEnd
    | .keep => state.lineEnd ++ state.emptyLines
  state.read.reverse ++ tail

end BlockState

/-- Read a block scalar behind its first line. -/
def blockFrom : List Char → Mark → BlockState → Option ScannedScalar
  | [], mark, state => some ⟨state.text, ⟨[], mark⟩, false⟩
  | char :: rest, mark, state =>
    if state.inLine then
      if isBreak char then
        blockFrom rest mark.down { state with inLine := false, lineEnd := [char] }
      else
        blockFrom rest mark.right { state with read := char :: state.read }
    else
      let indented := state.indent.all (mark.column < ·)
      if indented && char == ' ' then
        blockFrom rest mark.right
          { state with leastIndent := max state.leastIndent (mark.column + 1) }
      else if indented && char == '\t' then none
      else if isBreak char then
        blockFrom rest mark.down { state with emptyLines := state.emptyLines ++ [char] }
      else
        let indent := state.indent.getD state.leastIndent
        if mark.column == indent then
          let begun := { state with indent := some indent }.beginLine (isSpace char)
          blockFrom rest mark.right { begun with read := char :: begun.read }
        else
          some ⟨state.text, ⟨char :: rest, mark⟩, false⟩

/-- Read a block scalar, from its indicator on.  The surrounding collection is
indented by `indent - 1` spaces. -/
def scanBlock (folded : Bool) (indent : Nat) (source : Source) : Option ScannedScalar := do
  let (header, after) ← scanBlockHeader (source.advance 1)
  blockFrom after.rest after.mark
    { folded
      chomping := header.chomping
      indent := header.indent.map (indent - 1 + ·)
      leastIndent := max indent 1 }

end Yaml
end SyncWatch
