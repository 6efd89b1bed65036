import SyncWatch.Text.Quoted

/-!
# Values of the wrong kind

What a reader of structured values found in place of what it expected, and the
messages that say so.  The formats differ in two words of these messages,
which are therefore a parameter of them.
-/

namespace SyncWatch

/-- What was found where something else was expected. -/
inductive Found where
  /-- The value that stands for nothing. -/
  | nothing
  | boolean (flag : Bool)
  | integer (value : Int)
  /-- An integer beyond 64 bits. -/
  | wideInteger (value : Int)
  | float (value : Float)
  | string (text : String)
  | sequence
  | mapping
  | enumeration

/-- The words that the formats choose for themselves. -/
structure Wording where
  /-- What the value that stands for nothing is called. -/
  nothing : String
  /-- How a finite floating point number is written. -/
  floatText : Float → String

/-- The name of what was found. -/
def Found.message (wording : Wording) : Found → String
  | .nothing => wording.nothing
  | .boolean flag => "boolean `" ++ toString flag ++ "`"
  | .integer value => "integer `" ++ toString value ++ "`"
  | .wideInteger value =>
    "integer `" ++ toString value ++ "` as " ++ (if value < 0 then "i128" else "u128")
  | .float value => "floating point `" ++ wording.floatText value ++ "`"
  | .string text => "string " ++ Text.Quoted.quote text
  | .sequence => "sequence"
  | .mapping => "map"
  | .enumeration => "enum"

/-- Why a well-formed value cannot be read as the record that is asked for. -/
inductive Mismatch where
  /-- The value has another kind. -/
  | invalidType (found : Found) (expected : String)
  /-- The value has the right kind and is out of range. -/
  | invalidValue (found : Found) (expected : String)
  /-- A sequence has the wrong length. -/
  | invalidLength (length : Nat) (expected : String)
  /-- A field without a default is absent. -/
  | missingField (name : String)
  /-- A field is given twice. -/
  | duplicateField (name : String)

/-- The message of a mismatch. -/
def Mismatch.message (wording : Wording) : Mismatch → String
  | .invalidType found expected =>
    "invalid type: " ++ found.message wording ++ ", expected " ++ expected
  | .invalidValue found expected =>
    "invalid value: " ++ found.message wording ++ ", expected " ++ expected
  | .invalidLength length expected =>
    "invalid length " ++ toString length ++ ", expected " ++ expected
  | .missingField name => "missing field `" ++ name ++ "`"
  | .duplicateField name => "duplicate field `" ++ name ++ "`"

end SyncWatch
