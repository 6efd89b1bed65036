import SyncWatch.Yaml.Label

/-!
# The tokens of a text

Indentation and the colon behind a key become tokens of their own.  Whether
something is a key is known only when its colon comes, so that the tokens of a
key are put in front of what was read before.  When the text is malformed, the
tokens end in front of everything that might still have become a key.
-/

namespace SyncWatch
namespace Yaml

/-- Something that becomes a key when a colon follows. -/
structure PossibleKey where
  /-- The index of its first token. -/
  index : Nat
  mark : Mark
  /-- Whether nothing but a key can stand here. -/
  required : Bool
  deriving DecidableEq, Repr

/-- The tokens that were read, and what is needed to read on. -/
structure Tokenizer where
  source : Source
  tokens : List Token := []
  /-- The possible key of the innermost flow collection, or outside of all. -/
  key : Option PossibleKey := none
  /-- The possible keys around the flow collections that are open. -/
  outerKeys : List (Option PossibleKey) := []
  /-- The indentation of the block collections that are open, plus one, from
  the innermost to the outermost. -/
  indents : List Nat := []
  /-- Whether a key may begin here. -/
  keyAllowed : Bool := true
  finished : Bool := false

namespace Tokenizer

/-- Whether a flow collection is open. -/
def inFlow (state : Tokenizer) : Bool :=
  !state.outerKeys.isEmpty

/-- One more than the indentation of the innermost block collection, or zero
when none is open. -/
def indent (state : Tokenizer) : Nat :=
  state.indents.headD 0

/-- Whether too much was read for something to become a key: another line, or
more than 1024 characters. -/
def isStale (state : Tokenizer) (key : PossibleKey) : Bool :=
  key.mark.line < state.source.mark.line || key.mark.column + 1024 < state.source.mark.column

/-- Whether a possible key has to become one and no longer can. -/
def isBroken (state : Tokenizer) (key : Option PossibleKey) : Bool :=
  key.any fun key => key.required && state.isStale key

/-- Forget the keys that no longer can become one. -/
def dropStaleKeys (state : Tokenizer) : Option Tokenizer :=
  if (state.key :: state.outerKeys).any state.isBroken then none
  else
    let fresh (key : Option PossibleKey) := key.filter fun key => !state.isStale key
    some { state with key := fresh state.key, outerKeys := state.outerKeys.map fresh }

/-- Remember that a key may begin here. -/
def saveKey (state : Tokenizer) : Option Tokenizer :=
  if state.keyAllowed then
    if state.key.any (·.required) then none
    else
      some
        { state with
          key := some
            { index := state.tokens.length
              mark := state.source.mark
              required := !state.inFlow && state.indent == state.source.mark.column + 1 } }
  else
    some state

/-- Give up the possible key, unless it has to become one. -/
def removeKey (state : Tokenizer) : Option Tokenizer :=
  if state.key.any (·.required) then none else some { state with key := none }

/-- Append a token. -/
def emit (state : Tokenizer) (token : Token) : Tokenizer :=
  { state with tokens := state.tokens ++ [token] }

/-- Put a token in front of the one with a given index. -/
def insert (state : Tokenizer) (index : Nat) (token : Token) : Tokenizer :=
  { state with tokens := state.tokens.take index ++ token :: state.tokens.drop index }

/-- Append a token that stands for a number of characters, and read on behind them. -/
def emitMark (state : Tokenizer) (kind : TokenKind) (length : Nat) : Tokenizer :=
  let after := state.source.advance length
  { state.emit ⟨kind, state.source.mark, after.mark⟩ with source := after }

/-- Open a block collection at a column if it is further in than the open ones. -/
def rollIndent (state : Tokenizer) (kind : TokenKind) (index : Nat) (mark : Mark) : Tokenizer :=
  if !state.inFlow && state.indent < mark.column + 1 then
    { state.insert index ⟨kind, mark, mark⟩ with indents := (mark.column + 1) :: state.indents }
  else
    state

/-- Close the block collections that are further in than a column, of which the
indentation plus one is given. -/
def unrollIndent (state : Tokenizer) (indent : Nat) : Tokenizer :=
  if state.inFlow then state
  else
    let closed := state.indents.takeWhile (indent < ·)
    { state with
      tokens := state.tokens ++
        closed.map fun _ => ⟨.blockEnd, state.source.mark, state.source.mark⟩
      indents := state.indents.drop closed.length }

/-- Skip spaces, comments and line ends.  A byte order mark may begin a line, and
takes a column there.  Tabs are skipped where no key may begin.  The first flag
says whether the place is in a comment, the second whether a key may begin;
outside flow collections it may on every new line. -/
def skipBlank (flow : Bool) : Bool → Bool → List Char → Mark → Source × Bool
  | _, keyAllowed, [], mark => (⟨[], mark⟩, keyAllowed)
  | inComment, keyAllowed, char :: rest, mark =>
    if isBreak char then skipBlank flow false (keyAllowed || !flow) rest mark.down
    else if char == '\uFEFF' && mark.column == 0 then
      skipBlank flow inComment keyAllowed rest mark.right
    else if inComment || char == ' ' || (char == '\t' && (flow || !keyAllowed)) then
      skipBlank flow inComment keyAllowed rest mark.right
    else if char == '#' then skipBlank flow true keyAllowed rest mark.right
    else (⟨char :: rest, mark⟩, keyAllowed)

/-- Go to the next token and close the collections that end in front of it. -/
def approach (state : Tokenizer) : Option Tokenizer :=
  let (source, keyAllowed) :=
    skipBlank state.inFlow false state.keyAllowed state.source.rest state.source.mark
  let reached : Tokenizer := { state with source, keyAllowed }
  reached.dropStaleKeys.map fun state => state.unrollIndent (source.mark.column + 1)

/-- The end of the text. -/
def readEnd (state : Tokenizer) : Option Tokenizer := do
  let mark := state.source.mark
  let mark := if mark.column == 0 then mark else mark.down
  let closed := { state with source := ⟨[], mark⟩ }.unrollIndent 0
  let ended ← closed.removeKey
  return { ended.emit ⟨.streamEnd, mark, mark⟩ with keyAllowed := false, finished := true }

/-- A directive, which closes every block collection. -/
def readDirective (state : Tokenizer) : Option Tokenizer := do
  let ready ← (state.unrollIndent 0).removeKey
  let (token, after) ← scanDirective state.source
  return { ready.emit token with source := after, keyAllowed := false }

/-- The line that begins or ends a document. -/
def readDocumentLine (state : Tokenizer) (kind : TokenKind) : Option Tokenizer := do
  let ready ← (state.unrollIndent 0).removeKey
  return { ready.emitMark kind 3 with keyAllowed := false }

/-- The beginning of a flow collection. -/
def readFlowStart (state : Tokenizer) (kind : TokenKind) : Option Tokenizer := do
  let saved ← state.saveKey
  some
    { saved.emitMark kind 1 with
      key := none
      outerKeys := saved.key :: saved.outerKeys
      keyAllowed := true }

/-- The end of a flow collection. -/
def readFlowEnd (state : Tokenizer) (kind : TokenKind) : Option Tokenizer := do
  let ready ← state.removeKey
  some
    { ready.emitMark kind 1 with
      key := ready.outerKeys.headD none
      outerKeys := ready.outerKeys.drop 1
      keyAllowed := false }

/-- The comma between entries of a flow collection. -/
def readFlowEntry (state : Tokenizer) : Option Tokenizer := do
  let ready ← state.removeKey
  return { ready.emitMark .flowEntry 1 with keyAllowed := true }

/-- The sign of an entry of a block sequence. -/
def readBlockEntry (state : Tokenizer) : Option Tokenizer := do
  guard (state.inFlow || state.keyAllowed)
  let opened := state.rollIndent .blockSequenceStart state.tokens.length state.source.mark
  let ready ← opened.removeKey
  return { ready.emitMark .blockEntry 1 with keyAllowed := true }

/-- The question mark in front of a key. -/
def readKey (state : Tokenizer) : Option Tokenizer := do
  guard (state.inFlow || state.keyAllowed)
  let opened := state.rollIndent .blockMappingStart state.tokens.length state.source.mark
  let ready ← opened.removeKey
  return { ready.emitMark .key 1 with keyAllowed := !state.inFlow }

/-- The colon in front of a value, which makes a key of a possible key. -/
def readValue (state : Tokenizer) : Option Tokenizer := do
  match state.key with
  | some key =>
    let keyed := state.insert key.index ⟨.key, key.mark, key.mark⟩
    let opened := keyed.rollIndent .blockMappingStart key.index key.mark
    return { opened.emitMark .value 1 with key := none, keyAllowed := false }
  | none =>
    guard (state.inFlow || state.keyAllowed)
    let opened := state.rollIndent .blockMappingStart state.tokens.length state.source.mark
    return { opened.emitMark .value 1 with keyAllowed := !state.inFlow }

/-- A reference or an anchor behind its sign. -/
def readAnchor (state : Tokenizer) (kind : List Char → TokenKind) : Option Tokenizer := do
  let saved ← state.saveKey
  let (name, after) ← scanAnchor (saved.source.advance 1)
  some
    { saved.emit ⟨kind name, saved.source.mark, after.mark⟩ with
      source := after
      keyAllowed := false }

/-- A tag. -/
def readTag (state : Tokenizer) : Option Tokenizer := do
  let saved ← state.saveKey
  let ((handle, suffix), after) ← scanTag saved.inFlow saved.source
  some
    { saved.emit ⟨.tag handle suffix, saved.source.mark, after.mark⟩ with
      source := after
      keyAllowed := false }

/-- Append a scalar and read on behind it. -/
def emitScalar (state : Tokenizer) (scanned : ScannedScalar) (style : ScalarStyle) : Tokenizer :=
  { state.emit ⟨.scalar scanned.text style, state.source.mark, scanned.after.mark⟩ with
    source := scanned.after }

/-- A block scalar. -/
def readBlockScalar (state : Tokenizer) (style : ScalarStyle) : Option Tokenizer := do
  let ready ← state.removeKey
  let scanned ← scanBlock (style == .folded) ready.indent ready.source
  return { ready.emitScalar scanned style with keyAllowed := true }

/-- A quoted scalar. -/
def readQuoted (state : Tokenizer) (style : ScalarStyle) : Option Tokenizer := do
  let saved ← state.saveKey
  let scanned ← scanQuoted style saved.source
  return { saved.emitScalar scanned style with keyAllowed := false }

/-- A plain scalar.  A key may begin behind it if it ends with a line. -/
def readPlain (state : Tokenizer) : Option Tokenizer := do
  let saved ← state.saveKey
  let scanned ← scanPlain saved.inFlow saved.indent saved.source
  return { saved.emitScalar scanned .plain with keyAllowed := scanned.broken }

/-- Whether a plain scalar may begin with a character in front of others. -/
def beginsPlain (flow : Bool) (char : Char) (rest : List Char) : Bool :=
  if char == '-' then !(rest.head?.any isSpace)
  else if char == '?' || char == ':' then !flow && !endsWord rest
  else !isSpace char && !(",[]\x7b\x7d#&*!|>\x27\"%@\x60".toList.contains char)

/-- The token that begins with a character in front of others. -/
def readMark (state : Tokenizer) (char : Char) (rest : List Char) : Option Tokenizer :=
  let flow := state.inFlow
  match char with
  | '[' => state.readFlowStart .flowSequenceStart
  | '\x7b' => state.readFlowStart .flowMappingStart
  | ']' => state.readFlowEnd .flowSequenceEnd
  | '\x7d' => state.readFlowEnd .flowMappingEnd
  | ',' => state.readFlowEntry
  | '*' => state.readAnchor .reference
  | '&' => state.readAnchor .anchor
  | '!' => state.readTag
  | '\x27' => state.readQuoted .singleQuoted
  | '"' => state.readQuoted .doubleQuoted
  | char =>
    if char == '-' && endsWord rest then state.readBlockEntry
    else if char == '?' && (flow || endsWord rest) then state.readKey
    else if char == ':' && (flow || endsWord rest) then state.readValue
    else if char == '|' && !flow then state.readBlockScalar .literal
    else if char == '>' && !flow then state.readBlockScalar .folded
    else if beginsPlain flow char rest then state.readPlain
    else none

/-- Read one more token, with the tokens that come with it. -/
def step (state : Tokenizer) : Option Tokenizer := do
  let state ← state.approach
  let read ←
    match state.source.rest with
    | [] => state.readEnd
    | char :: rest =>
      if state.source.mark.column == 0 && char == '%' then state.readDirective
      else if state.source.mark.column == 0 && isTripled '-' (char :: rest) then
        state.readDocumentLine .documentStart
      else if state.source.mark.column == 0 && isTripled '.' (char :: rest) then
        state.readDocumentLine .documentEnd
      else state.readMark char rest
  read.dropStaleKeys

/-- The tokens in front of everything that might still become a key. -/
def settled (state : Tokenizer) : List Token :=
  let indices := (state.key :: state.outerKeys).filterMap fun key => key.map (·.index)
  state.tokens.take (indices.foldl min state.tokens.length)

end Tokenizer

/-- The tokens of a text.  Where they do not end with the stream, what follows
them is malformed. -/
def tokensFrom : Nat → Tokenizer → List Token
  | 0, state => state.settled
  | fuel + 1, state =>
    if state.finished then state.tokens
    else
      match state.step with
      | some next => tokensFrom fuel next
      | none => state.settled

/-- The tokens of a text; every step reads a character or ends the text. -/
def tokensOf (text : List Char) : List Token :=
  if text.all isPermitted then
    let source : Source := ⟨plainLineEnds text, {}⟩
    tokensFrom (text.length + 2) { source, tokens := [⟨.streamStart, {}, {}⟩] }
  else
    []

end Yaml
end SyncWatch
