import SyncWatch.Decimal.Nearest
import SyncWatch.Mismatch
import SyncWatch.Word
import SyncWatch.Yaml.Event

/-!
# What scalars mean

A plain scalar stands for nothing, a flag or a number when it is written like
one, and else for its text.  A tag can ask for one of these meanings.
-/

namespace SyncWatch
namespace Yaml

/-- The flag that a text stands for. -/
def flag? (text : List Char) : Option Bool :=
  let text := String.ofList text
  if ["true", "True", "TRUE"].contains text then some true
  else if ["false", "False", "FALSE"].contains text then some false
  else none

/-- Whether a text stands for nothing. -/
def isNothing (text : List Char) : Bool :=
  ["null", "Null", "NULL", "~"].contains (String.ofList text)

/-- The text without a sign in front of it. -/
def withoutSign (sign : Char) (text : List Char) : List Char :=
  if text.head? = some sign then text.drop 1 else text

/-- Whether a text has a zero in front of other digits, which makes it no number. -/
def hasLeadingZero (text : List Char) : Bool :=
  let digits :=
    match text with
    | '+' :: rest | '-' :: rest => rest
    | text => text
  1 < digits.length && digits.head? == some '0' && digits.all Char.isDigit

/-- The number that digits stand for, in the base that is written in front of them. -/
def magnitude? : List Char → Option Nat
  | '0' :: 'x' :: digits => Text.natOfDigits? 16 digits
  | '0' :: 'o' :: digits => Text.natOfDigits? 8 digits
  | '0' :: 'b' :: digits => Text.natOfDigits? 2 digits
  | digits => if hasLeadingZero digits then none else Text.natOfDigits? 10 digits

/-- The number without a minus sign that a text stands for. -/
def unsigned? (text : List Char) : Option Nat :=
  magnitude? (withoutSign '+' text)

/-- The integer that a text stands for. -/
def integer? : List Char → Option Int
  | '-' :: digits => (magnitude? digits).map fun number => -(number : Int)
  | text => (unsigned? text).map fun number => (number : Int)

/-- The integer of at most 128 bits that a text stands for, with its width. -/
def foundInteger? (text : List Char) : Option Found :=
  match integer? text with
  | some value =>
    if Word.holdsEither 64 value then some (.integer value)
    else if Word.holdsEither 128 value then some (.wideInteger value)
    else none
  | none => none

/-- The digits in front of and behind the point, and the exponent. -/
structure DecimalParts where
  whole : List Char
  fraction : List Char
  exponent : Int

/-- The exponent that follows the digits. -/
def exponent? : List Char → Option Int
  | [] => some 0
  | mark :: rest =>
    if mark == 'e' || mark == 'E' then
      match rest with
      | '-' :: digits => (Text.natOfDigits? 10 digits).map fun number => -(number : Int)
      | rest => (Text.natOfDigits? 10 (withoutSign '+' rest)).map fun number => (number : Int)
    else
      none

/-- The parts of a decimal without a sign. -/
def decimalParts? (text : List Char) : Option DecimalParts := do
  let whole := text.takeWhile Char.isDigit
  let behind := text.drop whole.length
  let (fraction, rest) :=
    match behind with
    | '.' :: rest =>
      let fraction := rest.takeWhile Char.isDigit
      (fraction, rest.drop fraction.length)
    | rest => ([], rest)
  guard (!(whole ++ fraction).isEmpty)
  return { whole, fraction, exponent := ← exponent? rest }

/-- The finite floating point number nearest to a decimal without a sign. -/
def nearestFloat? (parts : DecimalParts) : Option Float := do
  let digits ← Text.natOfDigits? 10 (parts.whole ++ parts.fraction)
  Decimal.nearest? digits (parts.exponent - parts.fraction.length)

/-- The finite floating point number that a text stands for. -/
def finiteFloat? : List Char → Option Float
  | '-' :: rest => ((decimalParts? rest).bind nearestFloat?).map fun value => -value
  | text => (decimalParts? text).bind nearestFloat?

/-- The floating point number that a text stands for. -/
def float? (text : List Char) : Option Float :=
  let written := String.ofList text
  if [".inf", ".Inf", ".INF", "+.inf", "+.Inf", "+.INF"].contains written then some (1.0 / 0.0)
  else if ["-.inf", "-.Inf", "-.INF"].contains written then some (-1.0 / 0.0)
  else if [".nan", ".NaN", ".NAN"].contains written then some (0.0 / 0.0)
  else
    match text with
    | '+' :: '-' :: _ => none
    | text => finiteFloat? (withoutSign '+' text)

/-- What a plain text stands for. -/
def plainMeaning (text : List Char) : Found :=
  if text.isEmpty || isNothing text then .nothing
  else
    match flag? text with
    | some flag => .boolean flag
    | none =>
      match foundInteger? text with
      | some found => found
      | none =>
        if hasLeadingZero text then .string (String.ofList text)
        else
          match float? text with
          | some value => .float value
          | none => .string (String.ofList text)

/-- The meanings that a tag can ask for. -/
inductive TagMeaning where
  | boolean
  | integer
  | float
  | nothing
  deriving DecidableEq, Repr

namespace TagMeaning

/-- The tag that asks for a meaning. -/
def tag : TagMeaning → List Char
  | .boolean => "tag:yaml.org,2002:bool".toList
  | .integer => "tag:yaml.org,2002:int".toList
  | .float => "tag:yaml.org,2002:float".toList
  | .nothing => "tag:yaml.org,2002:null".toList

/-- What a tag asks for. -/
def ofTag? (tag : List Char) : Option TagMeaning :=
  [boolean, integer, float, nothing].find? fun meaning => meaning.tag == tag

/-- What is expected of a text with the tag. -/
def expected : TagMeaning → String
  | .boolean => "a boolean"
  | .integer => "an integer"
  | .float => "a float"
  | .nothing => "null"

/-- The text with this meaning, if it has it. -/
def found? (text : List Char) : TagMeaning → Option Found
  | .boolean => (flag? text).map .boolean
  | .integer => foundInteger? text
  | .float => (float? text).map .float
  | .nothing => if isNothing text then some .nothing else none

end TagMeaning

/-- Why a scalar cannot be read as what is expected in its place. -/
def scalarMismatch (properties : Properties) (text : List Char) (style : ScalarStyle)
    (expected : String) : Mismatch :=
  let asText : Mismatch := .invalidType (.string (String.ofList text)) expected
  match properties.tag with
  | none => if style == .plain then .invalidType (plainMeaning text) expected else asText
  | some tag =>
    match TagMeaning.ofTag? tag with
    | some meaning =>
      match meaning.found? text with
      | some found => .invalidType found expected
      | none => .invalidValue (.string (String.ofList text)) meaning.expected
    | none =>
      if tag.head? = some '!' && style == .plain then .invalidType (plainMeaning text) expected
      else asText

end Yaml
end SyncWatch
