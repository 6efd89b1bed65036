import SyncWatch.Decimal.Text
import SyncWatch.Word
import SyncWatch.Yaml.Meaning

/-!
# Documents and how records are read from them

A text holds one document.  Its nodes are read front to back as records, and a
value of the wrong kind is reported before anything malformed behind it.
-/

namespace SyncWatch
namespace Yaml

/-- What stands in a document, in the order in which it begins or ends. -/
inductive EntryKind where
  /-- A node by the number of its anchor. -/
  | reference (number : Nat)
  | scalar (properties : Properties) (text : List Char) (style : ScalarStyle)
  | sequenceStart
  | sequenceEnd
  | mappingStart
  | mappingEnd
  deriving DecidableEq, Repr

/-- A part of a document with its place. -/
structure Entry where
  kind : EntryKind
  mark : Mark
  deriving DecidableEq, Repr

/-- A document: its parts, and what its references mean. -/
structure Document where
  entries : List Entry := []
  /-- Whether the text is well-formed and ends behind this document. -/
  whole : Bool := false
  /-- The anchors with their numbers. -/
  anchors : List (List Char × Nat) := []
  /-- The numbers of anchors, the newest first, with the index of the entry at
  which the node begins. -/
  places : List (Nat × Nat) := []

namespace Document

/-- The document with one more part. -/
def append (document : Document) (kind : EntryKind) (mark : Mark) : Document :=
  { document with entries := document.entries ++ [⟨kind, mark⟩] }

/-- The document with an anchor of the node that begins next.  The number of an
anchor is the count of the names that are known. -/
def withAnchor (document : Document) (properties : Properties) : Document :=
  match properties.anchor with
  | none => document
  | some name =>
    let number := document.anchors.length
    { document with
      anchors := (name, number) :: document.anchors.filter fun anchor => anchor.1 != name
      places := (number, document.entries.length) :: document.places }

/-- Collect the parts of the first document. -/
def collect : Document → List Event → Document
  | document, [] => document
  | document, event :: rest =>
    match event.kind with
    | .documentStart => document.collect rest
    | .documentEnd => { document with whole := rest.head?.any (·.kind == .streamEnd) }
    | .streamEnd => { document with whole := true }
    | .reference name =>
      match document.anchors.lookup name with
      | some number => (document.append (.reference number) event.mark).collect rest
      | none => document
    | .scalar properties text style =>
      ((document.withAnchor properties).append (.scalar properties text style)
        event.mark).collect rest
    | .sequenceStart properties =>
      ((document.withAnchor properties).append .sequenceStart event.mark).collect rest
    | .sequenceEnd => (document.append .sequenceEnd event.mark).collect rest
    | .mappingStart properties =>
      ((document.withAnchor properties).append .mappingStart event.mark).collect rest
    | .mappingEnd => (document.append .mappingEnd event.mark).collect rest

/-- The document of a text. -/
def ofText (text : List Char) : Document :=
  collect {} (eventsOf text)

end Document

/-- Where a value stands: the keys that lead to it, joined by points. -/
abbrev Path := Option String

/-- The path of the value of a key. -/
def pathBelow (path : Path) (key : String) : Path :=
  some ((path.map (· ++ ".")).getD "" ++ key)

/-- Why a document cannot be read as a record. -/
inductive DocumentError where
  /-- The text is no single well-formed document. -/
  | malformed
  | mismatch (path : Path) (mark : Mark) (cause : Mismatch)

/-- How mismatches are worded: a missing value is a unit value. -/
def wording : Wording where
  nothing := "unit value"
  floatText := Decimal.positionalText

namespace DocumentError

/-- The place of a mismatch, unless it is the beginning of the text. -/
def placeText (mark : Mark) : String :=
  if mark = {} then ""
  else
    " at line " ++ toString (mark.line + 1) ++ " column " ++ toString (mark.column + 1)

/-- The message of an error. -/
def message : DocumentError → String
  | .malformed => "the text is not a single well-formed document"
  | .mismatch path mark cause =>
    (path.map (· ++ ": ")).getD "" ++ cause.message wording ++ placeText mark

end DocumentError

/-- Read a value at a path from the parts that begin with it; the answer holds
the parts behind it. -/
abbrev ValueReader (α : Type) :=
  Document → Path → List Entry → Except DocumentError (α × List Entry)

/-- The parts behind one node.  The number counts the collections that are open. -/
def behindNode : Nat → List Entry → Option (List Entry)
  | _, [] => none
  | depth, entry :: rest =>
    match entry.kind with
    | .sequenceStart | .mappingStart => behindNode (depth + 1) rest
    | .sequenceEnd | .mappingEnd => if depth ≤ 1 then some rest else behindNode (depth - 1) rest
    | _ => if depth == 0 then some rest else behindNode depth rest

/-- Pass over a value. -/
def readIgnored : ValueReader Unit := fun _ _ entries =>
  match behindNode 0 entries with
  | some rest => .ok ((), rest)
  | none => .error .malformed

/-- The beginning of a value, which may stand at another place. -/
structure Opening where
  entry : Entry
  /-- The parts behind the first one. -/
  behind : List Entry
  /-- The parts behind the reference, if the value is one. -/
  behindReference : Option (List Entry) := none

namespace Opening

/-- Open a value, at the node that it refers to if it is a reference. -/
def ofEntries? (document : Document) : List Entry → Option Opening
  | [] => none
  | entry :: rest =>
    match entry.kind with
    | .reference number => do
      let place ← document.places.lookup number
      let target ← document.entries[place]?
      return ⟨target, document.entries.drop (place + 1), some rest⟩
    | _ => some ⟨entry, rest, none⟩

/-- What follows the value when its node ends in front of some parts. -/
def following (opening : Opening) (behind : List Entry) : List Entry :=
  opening.behindReference.getD behind

/-- Why the value is not of the kind that is expected. -/
def mismatch (opening : Opening) (expected : String) : Mismatch :=
  match opening.entry.kind with
  | .scalar properties text style => scalarMismatch properties text style expected
  | .sequenceStart => .invalidType .sequence expected
  | _ => .invalidType .mapping expected

end Opening

/-- Read a scalar with a function that knows what to expect of it. -/
def readScalar {α : Type} (expected : String)
    (read : Properties → List Char → ScalarStyle → Option α) : ValueReader α :=
  fun document path entries =>
    match Opening.ofEntries? document entries with
    | none => .error .malformed
    | some opening =>
      let value :=
        match opening.entry.kind with
        | .scalar properties text style => read properties text style
        | _ => none
      match value with
      | some value => .ok (value, opening.following opening.behind)
      | none => .error (.mismatch path opening.entry.mark (opening.mismatch expected))

/-- Read a scalar as a text, whatever else it might mean. -/
def readText (expected : String) : ValueReader String :=
  readScalar expected fun _ text _ => some (String.ofList text)

/-- Whether a scalar is plain, or literal with the tag of a meaning. -/
def isLiteral (meaning : TagMeaning) (properties : Properties) (style : ScalarStyle) : Bool :=
  style == .plain || (style == .literal && properties.tag == some meaning.tag)

/-- Read a natural number of at most 64 bits. -/
def readNat (expected : String) : ValueReader Nat :=
  readScalar expected fun properties text style =>
    if isLiteral .integer properties style then
      (unsigned? text).filter (Word.holds 64)
    else
      none

/-- Read a flag. -/
def readFlag : ValueReader Bool :=
  readScalar "a boolean" fun properties text style =>
    if isLiteral .boolean properties style then flag? text else none

/-- A field of a record: its name, and how its value changes the record. -/
structure Field (α : Type) where
  name : String
  read : α → ValueReader α

/-- The field with a reader of its value and the change that the value makes. -/
def Field.of {α β : Type} (name : String) (read : ValueReader β) (set : α → β → α) : Field α where
  name
  read record document path entries := do
    let (value, rest) ← read document path entries
    return (set record value, rest)

/-- The path of the value of the key at the beginning of some parts.  A key
that is a reference has no name there. -/
def valuePath (path : Path) (entries : List Entry) : Path :=
  match entries with
  | ⟨.scalar _ text _, _⟩ :: _ => pathBelow path (String.ofList text)
  | _ => pathBelow path "?"

/-- Read the entries of a mapping into a record, each field at most once;
entries that are no fields are passed over.  The mark is the one of the mapping. -/
def readEntries {α : Type} (fields : List (Field α)) (mark : Mark) :
    Nat → List String → α → ValueReader α
  | 0, _, _ => fun _ _ _ => .error .malformed
  | fuel + 1, seen, record => fun document path entries => do
    match entries with
    | [] => .error .malformed
    | ⟨.mappingEnd, _⟩ :: rest => return (record, rest)
    | entries =>
      let (key, values) ← readText "field identifier" document path entries
      let below := valuePath path entries
      match fields.find? (·.name == key) with
      | none =>
        let (_, rest) ← readIgnored document below values
        readEntries fields mark fuel seen record document path rest
      | some field =>
        if seen.contains key then
          .error (.mismatch path mark (.duplicateField key))
        else
          let (record, rest) ← field.read record document below values
          readEntries fields mark fuel (key :: seen) record document path rest

/-- Read a mapping into a record that starts with given values.  An empty plain
scalar is an empty mapping. -/
def readRecord {α : Type} (expected : String) (fields : List (Field α)) (start : α) :
    ValueReader α :=
  fun document path entries =>
    match Opening.ofEntries? document entries with
    | none => .error .malformed
    | some opening =>
      match opening.entry.kind with
      | .mappingStart => do
        let behind := opening.behind
        let (record, rest) ←
          readEntries fields opening.entry.mark (behind.length + 1) [] start document path behind
        return (record, opening.following rest)
      | .scalar _ [] .plain => return (start, opening.following opening.behind)
      | _ => .error (.mismatch path opening.entry.mark (opening.mismatch expected))

/-- Read the one document of a text; a text without any stands for the start. -/
def readDocument {α : Type} (text : List Char) (start : α) (read : ValueReader α) :
    Except DocumentError α := do
  let document := Document.ofText text
  if document.entries.isEmpty && document.whole then return start
  let (value, _) ← read document none document.entries
  if document.whole then return value else .error .malformed

end Yaml
end SyncWatch
