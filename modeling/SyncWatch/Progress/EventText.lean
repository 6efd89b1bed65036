import SyncWatch.Progress.Event

/-!
# Events read straight from their text

The members of the object are handled in the order of the text.  A known field
is checked as soon as its first token is there, so a field of the wrong kind
or a repeated field is reported even when the text fails later on.
-/

namespace SyncWatch
namespace Progress

/-- Why a text is no event or no other payload of the feeds. -/
inductive PayloadError where
  /-- The text is not JSON. -/
  | malformed (error : Json.SyntaxError)
  /-- The text is JSON whose fields do not fit. -/
  | mismatch (mismatch : Mismatch)
  /-- The value is not an object. -/
  | notAnObject
  /-- The object is neither an event nor a snapshot. -/
  | unrecognized

/-- The message of an error, without the place in the text. -/
def PayloadError.message : PayloadError → Option String
  | .malformed _ => none
  | .mismatch cause => some ("invalid JSON payload: " ++ cause.message Json.wording)
  | .notAnObject => some "payload is not a JSON object"
  | .unrecognized => some "unrecognized payload shape"

namespace SyncEvent

/-- The members of an event that have been read. -/
structure Draft where
  name : Option String := none
  done : Option (Option Float) := none
  total : Option (Option Float) := none
  message : Option (Option String) := none
  extra : Json.Object := []

/-- How an event is called in messages. -/
def recordName : String := "struct SyncEvent"

namespace Draft

/-- Whether a known field was read before. -/
def has (draft : Draft) (key : String) : Bool :=
  if key = nameKey then draft.name.isSome
  else if key = "done" then draft.done.isSome
  else if key = "total" then draft.total.isSome
  else if key = "msg" then draft.message.isSome
  else false

/-- The event of a draft that has a name. -/
def finish (draft : Draft) : Except PayloadError SyncEvent :=
  match draft.name with
  | some name =>
    .ok
      { name
        done := draft.done.join
        total := draft.total.join
        message := draft.message.join
        extra := draft.extra }
  | none => .error (.mismatch (.missingField nameKey))

end Draft

/-- A token that is not what a known field needs. -/
def refuse {α : Type} (token : Json.Token) (expected : String) : Except PayloadError α :=
  match token.found with
  | .ok found => .error (.mismatch (.invalidType found expected))
  | .error error => .error (.malformed error)

/-- A floating point number that may be null. -/
def readNumber : Json.Token → Except PayloadError (Option Float)
  | .null => .ok none
  | .number number => .ok (some number.toFloat)
  | token => refuse token Json.numberName

/-- A text. -/
def readText : Json.Token → Except PayloadError String
  | .string text => .ok text
  | token => refuse token Json.textName

/-- A text that may be null. -/
def readOptionalText : Json.Token → Except PayloadError (Option String)
  | .null => .ok none
  | .string text => .ok (some text)
  | token => refuse token Json.textName

/-- Read a known field from its only token. -/
def readKnown (draft : Draft) (key : String) (token : Json.Token) :
    Except PayloadError Draft :=
  if key = nameKey then
    (readText token).map fun name => { draft with name := some name }
  else if key = "done" then
    (readNumber token).map fun done => { draft with done := some done }
  else if key = "total" then
    (readNumber token).map fun total => { draft with total := some total }
  else
    (readOptionalText token).map fun message => { draft with message := some message }

/-- How far the text of an event has been read. -/
inductive Place where
  /-- Nothing was read. -/
  | beginning
  /-- The object was opened, and its first key or its end must follow. -/
  | firstKey (draft : Draft)
  /-- A comma was read, and a key must follow. -/
  | key (draft : Draft)
  /-- A key was read, and a colon must follow. -/
  | colon (draft : Draft) (name : String)
  /-- A colon was read, and a value must follow. -/
  | value (draft : Draft) (name : String)
  /-- The value of a further field is being read. -/
  | inside (draft : Draft) (name : String) (cursor : Json.Cursor)
  /-- A member was read, and a comma or the end of the object must follow. -/
  | afterMember (draft : Draft)

/-- Either the whole event or the next place. -/
inductive Advance where
  | complete (event : SyncEvent)
  | continues (place : Place)

/-- How many containers may be open inside the object of an event. -/
def innerRoom : Nat := Json.deepest - 1

/-- Read a key; a known one must not be repeated. -/
def readKey (draft : Draft) : Json.Token → Except PayloadError Advance
  | .string key =>
    if draft.has key then .error (.mismatch (.duplicateField key))
    else .ok (.continues (.colon draft key))
  | .brokenString error => .error (.malformed error)
  | _ => .error (.malformed .malformed)

/-- Go on with the value of a further field. -/
def readExtra (draft : Draft) (name : String) (cursor : Json.Cursor) (token : Json.Token) :
    Except PayloadError Advance :=
  match cursor.step innerRoom token with
  | .error error => .error (.malformed error)
  | .ok (.complete value) =>
    .ok (.continues (.afterMember { draft with extra := draft.extra.insert name value }))
  | .ok (.continues next) => .ok (.continues (.inside draft name next))

/-- The place after one more token. -/
def Place.step (place : Place) (token : Json.Token) : Except PayloadError Advance :=
  match place, token with
  | .beginning, .openObject => .ok (.continues (.firstKey {}))
  | .beginning, token => refuse token recordName
  | .firstKey draft, .closeObject => draft.finish.map .complete
  | .firstKey draft, token => readKey draft token
  | .key draft, token => readKey draft token
  | .colon draft name, .colon => .ok (.continues (.value draft name))
  | .colon _ _, _ => .error (.malformed .malformed)
  | .value draft name, token =>
    if knownKeys.contains name then
      (readKnown draft name token).map fun next => .continues (.afterMember next)
    else
      readExtra draft name (.value []) token
  | .inside draft name cursor, token => readExtra draft name cursor token
  | .afterMember draft, .comma => .ok (.continues (.key draft))
  | .afterMember draft, .closeObject => draft.finish.map .complete
  | .afterMember _, _ => .error (.malformed .malformed)

/-- Read on from a place to the end of the text. -/
def resume : Place → List Json.Token → Except PayloadError SyncEvent
  | _, [] => .error (.malformed .unexpectedEnd)
  | place, token :: rest =>
    match place.step token with
    | .error error => .error error
    | .ok (.complete event) => if rest.isEmpty then .ok event else .error (.malformed .malformed)
    | .ok (.continues next) => resume next rest

/-- Read a text that consists of one event. -/
def parse (text : String) : Except PayloadError SyncEvent :=
  resume .beginning (Json.Token.ofText text)

end SyncEvent
end Progress
end SyncWatch
