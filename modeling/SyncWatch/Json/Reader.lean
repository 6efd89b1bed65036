import SyncWatch.Json.Token

/-!
# Reading JSON values

A value is read from its tokens by a machine whose state is the place it has
reached and the containers that are open around it.  Containers nest at most
`deepest` deep.  Of two values for one key in an object the later one stays.
-/

namespace SyncWatch
namespace Json

/-- A container that waits for the value that is being read. -/
inductive Open where
  /-- An array with its earlier items, in reverse. -/
  | array (items : List Value)
  /-- An object with its earlier members and the key of the value. -/
  | object (members : Object) (key : String)

/-- What must come next, and the containers around that place, innermost first. -/
inductive Cursor where
  /-- A value. -/
  | value (outer : List Open)
  /-- The first item of an array, or its end. -/
  | firstItem (outer : List Open)
  /-- A comma in an array, or its end. -/
  | afterItem (items : List Value) (outer : List Open)
  /-- The first key of an object, or its end. -/
  | firstKey (outer : List Open)
  /-- A key of an object, after a comma. -/
  | key (members : Object) (outer : List Open)
  /-- The colon after a key. -/
  | colon (members : Object) (key : String) (outer : List Open)
  /-- A comma in an object, or its end. -/
  | afterMember (members : Object) (outer : List Open)

/-- Either the whole value or the next place. -/
inductive Outcome where
  | complete (value : Value)
  | continues (cursor : Cursor)

/-- How many containers may be open at once. -/
def deepest : Nat := 127

/-- Hand a finished value to the innermost container. -/
def deliver (value : Value) : List Open → Outcome
  | [] => .complete value
  | .array items :: outer => .continues (.afterItem (value :: items) outer)
  | .object members key :: outer =>
    .continues (.afterMember (members.insert key value) outer)

/-- Begin a value with its first token, with at most `room` containers open. -/
def begin (room : Nat) (outer : List Open) : Token → Except SyntaxError Outcome
  | .null => .ok (deliver .null outer)
  | .bool flag => .ok (deliver (.bool flag) outer)
  | .number number => .ok (deliver (.number number) outer)
  | .string text => .ok (deliver (.string text) outer)
  | .openArray =>
    if outer.length < room then .ok (.continues (.firstItem outer)) else .error .malformed
  | .openObject =>
    if outer.length < room then .ok (.continues (.firstKey outer)) else .error .malformed
  | .brokenString error => .error error
  | .brokenScalar error => .error error
  | .closeArray | .closeObject | .colon | .comma => .error .malformed

/-- Read the key of a member. -/
def readKey (members : Object) (outer : List Open) : Token → Except SyntaxError Outcome
  | .string key => .ok (.continues (.colon members key outer))
  | .brokenString error => .error error
  | _ => .error .malformed

/-- The place after one more token. -/
def Cursor.step (room : Nat) (cursor : Cursor) (token : Token) : Except SyntaxError Outcome :=
  match cursor, token with
  | .value outer, token => begin room outer token
  | .firstItem outer, .closeArray => .ok (deliver (.array []) outer)
  | .firstItem outer, token => begin room (.array [] :: outer) token
  | .afterItem items outer, .comma => .ok (.continues (.value (.array items :: outer)))
  | .afterItem items outer, .closeArray => .ok (deliver (.array items.reverse) outer)
  | .afterItem _ _, _ => .error .malformed
  | .firstKey outer, .closeObject => .ok (deliver (.object []) outer)
  | .firstKey outer, token => readKey [] outer token
  | .key members outer, token => readKey members outer token
  | .colon members name outer, .colon =>
    .ok (.continues (.value (.object members name :: outer)))
  | .colon _ _ _, _ => .error .malformed
  | .afterMember members outer, .comma => .ok (.continues (.key members outer))
  | .afterMember members outer, .closeObject => .ok (deliver (.object members) outer)
  | .afterMember _ _, _ => .error .malformed

/-- Read on from a place to the end of the value, and return the other tokens. -/
def resume (room : Nat) : Cursor → List Token → Except SyntaxError (Value × List Token)
  | _, [] => .error .unexpectedEnd
  | cursor, token :: rest =>
    match cursor.step room token with
    | .error error => .error error
    | .ok (.complete value) => .ok (value, rest)
    | .ok (.continues next) => resume room next rest

/-- Read one value from the front of the tokens. -/
def readValue (tokens : List Token) : Except SyntaxError (Value × List Token) :=
  resume deepest (.value []) tokens

/-- Read a text that consists of one value. -/
def parse (text : String) : Except SyntaxError Value :=
  match readValue (Token.ofText text) with
  | .error error => .error error
  | .ok (value, []) => .ok value
  | .ok (_, _ :: _) => .error .malformed

end Json
end SyncWatch
