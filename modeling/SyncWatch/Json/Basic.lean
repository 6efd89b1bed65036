/-!
# JSON values

Values as the feeds and their readers see them: an integer keeps its exact
value, any other number is a floating point number, and the members of an
object are kept in increasing order of their keys.
-/

namespace SyncWatch
namespace Json

/-- A number: exact when it was written as an integer of 64 bits. -/
inductive Number where
  /-- An integer of 64 bits, signed or unsigned. -/
  | integer (value : Int)
  /-- Any other finite number. -/
  | float (value : Float)

/-- The floating point number nearest to a number. -/
def Number.toFloat : Number → Float
  | .integer value => Float.ofInt value
  | .float value => value

/-- A JSON value. -/
inductive Value where
  | null
  | bool (flag : Bool)
  | number (number : Number)
  | string (text : String)
  | array (items : List Value)
  | object (members : List (String × Value))

/-- The members of an object.  `Object.insert` keeps them in increasing order
of their keys, each key once. -/
abbrev Object := List (String × Value)

namespace Object

/-- The value of a key. -/
def get? (object : Object) (key : String) : Option Value :=
  object.lookup key

/-- Whether a key has a value. -/
def hasKey (object : Object) (key : String) : Bool :=
  (object.lookup key).isSome

/-- Give a key a value, in place of the value it had before. -/
def insert (key : String) (value : Value) : Object → Object
  | [] => [(key, value)]
  | (head, headValue) :: rest =>
    if key < head then
      (key, value) :: (head, headValue) :: rest
    else if key = head then
      (key, value) :: rest
    else
      (head, headValue) :: insert key value rest

/-- The members whose keys are not among the given ones. -/
def without (object : Object) (keys : List String) : Object :=
  object.filter fun entry => !keys.contains entry.1

/-- The members in order, a later value replacing an earlier one of its key. -/
def ofList (members : List (String × Value)) : Object :=
  members.foldl (fun object entry => insert entry.1 entry.2 object) []

@[simp] theorem insert_nil (key : String) (value : Value) :
    insert key value [] = [(key, value)] := rfl

end Object
end Json
end SyncWatch
