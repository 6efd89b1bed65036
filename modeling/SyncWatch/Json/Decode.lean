import SyncWatch.Json.Printer
import SyncWatch.Json.Token
import SyncWatch.Mismatch
import SyncWatch.Word

/-!
# Values read as fields of records

Each decoder accepts one kind of JSON value and says of any other value what it
found and what it expected.
-/

namespace SyncWatch
namespace Json

/-- The words of messages about JSON values. -/
def wording : Wording := ⟨"null", floatText⟩

/-- What a number counts as in messages. -/
def Number.found : Number → Found
  | .integer value => .integer value
  | .float value => .float value

/-- What a value counts as in messages. -/
def Value.found : Value → Found
  | .null => .nothing
  | .bool flag => .boolean flag
  | .number written => written.found
  | .string text => .string text
  | .array _ => .sequence
  | .object _ => .mapping

/-- What a value counts as in messages, judged by its first token; a token that
begins no value is a syntax error. -/
def Token.found : Token → Except SyntaxError Found
  | .null => .ok .nothing
  | .bool flag => .ok (.boolean flag)
  | .number written => .ok written.found
  | .string text => .ok (.string text)
  | .openArray => .ok .sequence
  | .openObject => .ok .mapping
  | .brokenString error => .error error
  | .brokenScalar error => .error error
  | .closeArray | .closeObject | .colon | .comma => .error .malformed

/-- How a floating point field is called in messages. -/
def numberName : String := "f64"

/-- How a text field is called in messages. -/
def textName : String := "a string"

/-- How a field with two values is called in messages. -/
def flagName : String := "a boolean"

/-- How a field with a 32-bit integer is called in messages. -/
def exitCodeName : String := "i32"

/-- The text of a string. -/
def Value.asText : Value → Except Mismatch String
  | .string text => .ok text
  | value => .error (.invalidType value.found textName)

/-- The flag of a boolean. -/
def Value.asFlag : Value → Except Mismatch Bool
  | .bool flag => .ok flag
  | value => .error (.invalidType value.found flagName)

/-- The floating point number nearest to a number. -/
def Value.asNumber : Value → Except Mismatch Float
  | .number written => .ok written.toFloat
  | value => .error (.invalidType value.found numberName)

/-- The value of an integer of 32 bits. -/
def Value.asInt32 : Value → Except Mismatch Int
  | .number (.integer value) =>
    if Word.holdsSigned 32 value then .ok value
    else .error (.invalidValue (.integer value) exitCodeName)
  | value => .error (.invalidType value.found exitCodeName)

/-- A field that may be absent or null. -/
def optional {α : Type} (decode : Value → Except Mismatch α) :
    Option Value → Except Mismatch (Option α)
  | none => .ok none
  | some .null => .ok none
  | some value => (decode value).map some

/-- A field with a default for its absence. -/
def withDefault {α : Type} (default : α) (decode : Value → Except Mismatch α) :
    Option Value → Except Mismatch α
  | none => .ok default
  | some value => decode value

end Json
end SyncWatch
