import SyncWatch.Yaml.Tokens

/-!
# The structure of a stream

Tokens are read as events: the nodes of documents in the order in which they
begin, and the ends of collections.  A value that is left out becomes an empty
plain scalar at the place where it could stand.
-/

namespace SyncWatch
namespace Yaml

/-- The name and the type that are given to a node. -/
structure Properties where
  anchor : Option (List Char) := none
  tag : Option (List Char) := none
  deriving DecidableEq, Repr

/-- What an event is. -/
inductive EventKind where
  | documentStart
  | documentEnd
  | streamEnd
  | reference (name : List Char)
  | scalar (properties : Properties) (text : List Char) (style : ScalarStyle)
  | sequenceStart (properties : Properties)
  | sequenceEnd
  | mappingStart (properties : Properties)
  | mappingEnd
  deriving DecidableEq, Repr

/-- An event with its place. -/
structure Event where
  kind : EventKind
  mark : Mark
  deriving DecidableEq, Repr

/-- What is expected next. -/
inductive Expectation where
  /-- A document; the flag says whether it may begin without a mark. -/
  | document (bare : Bool)
  | documentContent
  | documentEnd
  /-- A node outside flow collections. -/
  | blockNode
  | blockSequenceEntry (first : Bool)
  /-- An entry of a sequence that is not indented further than its key. -/
  | indentlessEntry
  | blockMappingKey (first : Bool)
  | blockMappingValue
  | flowSequenceEntry (first : Bool)
  | pairKey
  | pairValue
  | pairEnd
  | flowMappingKey (first : Bool)
  | flowMappingValue
  | emptyMappingValue
  | nothing
  deriving DecidableEq, Repr

/-- The handles of tags with what they stand for. -/
abbrev TagHandles := List (List Char × List Char)

/-- The handles that are known in every document. -/
def commonHandles : TagHandles :=
  [(['!'], ['!']), (['!', '!'], "tag:yaml.org,2002:".toList)]

/-- The rest of the tokens, and what is expected of them. -/
structure EventReader where
  tokens : List Token
  expected : Expectation := .document true
  /-- What is expected when a node or a collection is complete. -/
  pending : List Expectation := []
  handles : TagHandles := commonHandles

namespace EventReader

/-- The reader behind its first token. -/
def skip (reader : EventReader) : EventReader :=
  { reader with tokens := reader.tokens.drop 1 }

/-- The reader with something else expected. -/
def expecting (reader : EventReader) (expected : Expectation) : EventReader :=
  { reader with expected }

/-- The reader with something expected after the next node. -/
def later (reader : EventReader) (expected : Expectation) : EventReader :=
  { reader with pending := expected :: reader.pending }

/-- The reader after a complete node. -/
def resume (reader : EventReader) : EventReader :=
  { reader with expected := reader.pending.headD .nothing, pending := reader.pending.drop 1 }

/-- An empty scalar in place of a value that is left out. -/
def emptyScalar (properties : Properties) (mark : Mark) : Event :=
  ⟨.scalar properties [] .plain, mark⟩

/-- The name and the tag of a node, in either order. -/
def properties : List Token → Option (List Char) × Option (List Char × List Char) × List Token
  | ⟨.anchor name, _, _⟩ :: ⟨.tag handle suffix, _, _⟩ :: rest =>
    (some name, some (handle, suffix), rest)
  | ⟨.tag handle suffix, _, _⟩ :: ⟨.anchor name, _, _⟩ :: rest =>
    (some name, some (handle, suffix), rest)
  | ⟨.anchor name, _, _⟩ :: rest => (some name, none, rest)
  | ⟨.tag handle suffix, _, _⟩ :: rest => (none, some (handle, suffix), rest)
  | tokens => (none, none, tokens)

/-- The full text of a tag; its handle has to be known. -/
def resolveTag (handles : TagHandles) : Option (List Char × List Char) →
    Option (Option (List Char))
  | none => some none
  | some (handle, suffix) =>
    if handle.isEmpty then some (some suffix)
    else (handles.lookup handle).map fun stem => some (stem ++ suffix)

/-- The tag that counts for a scalar: one that says nothing does not. -/
def scalarTag (tag : Option (List Char)) : Option (List Char) :=
  tag.filter (· != ['!'])

/-- Read a node that is no reference.  The flags say whether it is outside flow
collections, and whether a sequence may stand without indentation. -/
def properNode (reader : EventReader) (block indentless : Bool) (start : Mark) :
    Option (Event × EventReader) := do
  let (anchor, written, rest) := properties reader.tokens
  let token ← rest.head?
  let tag ← resolveTag reader.handles written
  let found := { reader with tokens := rest }
  let properties : Properties := { anchor, tag }
  match token.kind with
  | .scalar text style =>
    let properties := { properties with tag := scalarTag tag }
    return (⟨.scalar properties text style, start⟩, found.skip.resume)
  | .flowSequenceStart =>
    return (⟨.sequenceStart properties, start⟩, found.expecting (.flowSequenceEntry true))
  | .flowMappingStart =>
    return (⟨.mappingStart properties, start⟩, found.expecting (.flowMappingKey true))
  | kind =>
    if indentless && kind == .blockEntry then
      return (⟨.sequenceStart properties, start⟩, found.expecting .indentlessEntry)
    else if block && kind == .blockSequenceStart then
      return (⟨.sequenceStart properties, start⟩, found.expecting (.blockSequenceEntry true))
    else if block && kind == .blockMappingStart then
      return (⟨.mappingStart properties, start⟩, found.expecting (.blockMappingKey true))
    else
      guard (anchor.isSome || tag.isSome)
      return (emptyScalar properties start, found.resume)

/-- Read a node. -/
def node (reader : EventReader) (block indentless : Bool) : Option (Event × EventReader) :=
  match reader.tokens with
  | ⟨.reference name, start, _⟩ :: _ => some (⟨.reference name, start⟩, reader.skip.resume)
  | token :: _ => reader.properNode block indentless token.start
  | [] => none

/-- Read a node, or an empty scalar at a place when a token follows that no
node begins with. -/
def nodeUnless (reader : EventReader) (ends : TokenKind → Bool) (mark : Mark) (block : Bool)
    (indentless : Bool) (next : Expectation) : Option (Event × EventReader) := do
  let token ← reader.tokens.head?
  if ends token.kind then return (emptyScalar {} mark, reader.expecting next)
  else (reader.later next).node block indentless

/-- Whether a token ends an entry of a block mapping. -/
def endsMappingEntry (kind : TokenKind) : Bool :=
  kind == .key || kind == .value || kind == .blockEnd

/-- Whether a token ends an entry of a block sequence. -/
def endsSequenceEntry (kind : TokenKind) : Bool :=
  kind == .blockEntry || kind == .blockEnd

/-- Whether a token ends an entry of a sequence without indentation. -/
def endsIndentlessEntry (kind : TokenKind) : Bool :=
  kind == .blockEntry || endsMappingEntry kind

/-- Whether a token ends a value in a flow sequence. -/
def endsPairValue (kind : TokenKind) : Bool :=
  kind == .flowEntry || kind == .flowSequenceEnd

/-- Whether a token ends a value in a flow mapping. -/
def endsFlowValue (kind : TokenKind) : Bool :=
  kind == .flowEntry || kind == .flowMappingEnd

/-- Whether a token belongs to no document content. -/
def endsContent : TokenKind → Bool
  | .versionDirective _ _ | .tagDirective _ _ | .documentStart | .documentEnd | .streamEnd => true
  | _ => false

/-- Read the directives of a document: at most one version, which has to be
known, and no handle twice. -/
def directives : Bool → TagHandles → List Token → Option (TagHandles × List Token)
  | versioned, handles, ⟨.versionDirective major minor, _, _⟩ :: rest =>
    if versioned || major != 1 || (minor != 1 && minor != 2) then none
    else directives true handles rest
  | versioned, handles, ⟨.tagDirective handle stem, _, _⟩ :: rest =>
    if (handles.lookup handle).isSome then none
    else directives versioned (handles ++ [(handle, stem)]) rest
  | _, handles, tokens => some (handles ++ commonHandles, tokens)

/-- Read the beginning of a document, or the end of the stream. -/
def document (reader : EventReader) (bare : Bool) : Option (Event × EventReader) := do
  let tokens :=
    if bare then reader.tokens else reader.tokens.dropWhile (·.kind == .documentEnd)
  let token ← tokens.head?
  let ready := { reader with tokens }.later .documentEnd
  if token.kind == .streamEnd then
    return (⟨.streamEnd, token.start⟩, reader.expecting .nothing)
  else if bare && !(endsContent token.kind && token.kind != .documentEnd) then
    return (⟨.documentStart, token.start⟩,
      { ready.expecting .blockNode with handles := commonHandles })
  else
    let (handles, rest) ← directives false [] tokens
    guard (rest.head?.any (·.kind == .documentStart))
    return (⟨.documentStart, token.start⟩,
      { ready.expecting .documentContent with tokens := rest.drop 1, handles })

/-- Read an entry of a block sequence, or its end. -/
def blockSequenceEntry (reader : EventReader) : Option (Event × EventReader) := do
  let token ← reader.tokens.head?
  if token.kind == .blockEntry then
    reader.skip.nodeUnless endsSequenceEntry token.stop true false (.blockSequenceEntry false)
  else
    guard (token.kind == .blockEnd)
    return (⟨.sequenceEnd, token.start⟩, reader.skip.resume)

/-- Read an entry of a sequence without indentation, or its end. -/
def indentlessEntry (reader : EventReader) : Option (Event × EventReader) := do
  let token ← reader.tokens.head?
  if token.kind == .blockEntry then
    reader.skip.nodeUnless endsIndentlessEntry token.stop true false .indentlessEntry
  else
    return (⟨.sequenceEnd, token.start⟩, reader.resume)

/-- Read a key of a block mapping, or its end. -/
def blockMappingKey (reader : EventReader) : Option (Event × EventReader) := do
  let token ← reader.tokens.head?
  if token.kind == .key then
    reader.skip.nodeUnless endsMappingEntry token.stop true true .blockMappingValue
  else
    guard (token.kind == .blockEnd)
    return (⟨.mappingEnd, token.start⟩, reader.skip.resume)

/-- Read a value of a block mapping. -/
def blockMappingValue (reader : EventReader) : Option (Event × EventReader) := do
  let token ← reader.tokens.head?
  if token.kind == .value then
    reader.skip.nodeUnless endsMappingEntry token.stop true true (.blockMappingKey false)
  else
    return (emptyScalar {} token.start, reader.expecting (.blockMappingKey false))

/-- The reader behind the comma in front of an entry; the first one has none. -/
def behindComma (reader : EventReader) (first : Bool) : Option EventReader := do
  if first then return reader
  guard ((← reader.tokens.head?).kind == .flowEntry)
  return reader.skip

/-- Read an entry of a flow sequence, or its end.  A pair is a mapping of its own. -/
def flowSequenceEntry (reader : EventReader) (first : Bool) : Option (Event × EventReader) := do
  let token ← reader.tokens.head?
  if token.kind == .flowSequenceEnd then
    return (⟨.sequenceEnd, token.start⟩, reader.skip.resume)
  let entry ← reader.behindComma first
  let token ← entry.tokens.head?
  if token.kind == .flowSequenceEnd then
    return (⟨.sequenceEnd, token.start⟩, entry.skip.resume)
  else if token.kind == .key then
    return (⟨.mappingStart {}, token.start⟩, entry.skip.expecting .pairKey)
  else
    (entry.later (.flowSequenceEntry false)).node false false

/-- Read the key of a pair.  When it is left out, the token in its place is passed. -/
def pairKey (reader : EventReader) : Option (Event × EventReader) := do
  let token ← reader.tokens.head?
  if token.kind == .value || endsPairValue token.kind then
    return (emptyScalar {} token.stop, reader.skip.expecting .pairValue)
  else
    (reader.later .pairValue).node false false

/-- Read the value behind a colon in a flow collection; without a colon it is empty. -/
def flowValue (reader : EventReader) (ends : TokenKind → Bool) (next : Expectation) :
    Option (Event × EventReader) := do
  let token ← reader.tokens.head?
  if token.kind == .value then
    let following ← reader.skip.tokens.head?
    reader.skip.nodeUnless ends following.start false false next
  else
    return (emptyScalar {} token.start, reader.expecting next)

/-- Read a key of a flow mapping, or its end. -/
def flowMappingKey (reader : EventReader) (first : Bool) : Option (Event × EventReader) := do
  let token ← reader.tokens.head?
  if token.kind == .flowMappingEnd then
    return (⟨.mappingEnd, token.start⟩, reader.skip.resume)
  let entry ← reader.behindComma first
  let token ← entry.tokens.head?
  if token.kind == .flowMappingEnd then
    return (⟨.mappingEnd, token.start⟩, entry.skip.resume)
  else if token.kind == .key then
    let following ← entry.skip.tokens.head?
    entry.skip.nodeUnless (fun kind => kind == .value || endsFlowValue kind) following.start
      false false .flowMappingValue
  else
    (entry.later .emptyMappingValue).node false false

/-- Read the next event. -/
def next (reader : EventReader) : Option (Event × EventReader) := do
  match reader.expected with
  | .document bare => reader.document bare
  | .documentContent =>
    let token ← reader.tokens.head?
    if endsContent token.kind then return (emptyScalar {} token.start, reader.resume)
    else reader.node true false
  | .documentEnd =>
    let token ← reader.tokens.head?
    let ended := if token.kind == .documentEnd then reader.skip else reader
    return (⟨.documentEnd, token.start⟩, ended.expecting (.document false))
  | .blockNode => reader.node true false
  | .blockSequenceEntry first => (if first then reader.skip else reader).blockSequenceEntry
  | .indentlessEntry => reader.indentlessEntry
  | .blockMappingKey first => (if first then reader.skip else reader).blockMappingKey
  | .blockMappingValue => reader.blockMappingValue
  | .flowSequenceEntry first => (if first then reader.skip else reader).flowSequenceEntry first
  | .pairKey => reader.pairKey
  | .pairValue => reader.flowValue endsPairValue .pairEnd
  | .pairEnd =>
    let token ← reader.tokens.head?
    return (⟨.mappingEnd, token.start⟩, reader.expecting (.flowSequenceEntry false))
  | .flowMappingKey first => (if first then reader.skip else reader).flowMappingKey first
  | .flowMappingValue => reader.flowValue endsFlowValue (.flowMappingKey false)
  | .emptyMappingValue =>
    let token ← reader.tokens.head?
    return (emptyScalar {} token.start, reader.expecting (.flowMappingKey false))
  | .nothing => none

/-- The events of at most a number of steps. -/
def events : Nat → EventReader → List Event
  | 0, _ => []
  | fuel + 1, reader =>
    match reader.next with
    | some (event, rest) => event :: events fuel rest
    | none => []

end EventReader

/-- The events of a text.  No token stands for more than three events that pass
it by.  Where the events do not end with the stream, what follows is malformed. -/
def eventsOf (text : List Char) : List Event :=
  let tokens := tokensOf text
  EventReader.events (4 * tokens.length + 4) { tokens := tokens.drop 1 }

end Yaml
end SyncWatch
