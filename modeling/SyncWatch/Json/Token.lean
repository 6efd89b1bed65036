import SyncWatch.Decimal.Scaled
import SyncWatch.Json.Basic
import SyncWatch.Text.Digit
import SyncWatch.Word

/-!
# JSON tokens

A text is cut into tokens by a machine that looks at one character at a time.
The list ends with a broken token when the text leaves the lexical grammar;
what is wrong with it matters only to a reader that gets that far.
-/

namespace SyncWatch
namespace Json

/-- How a text fails to be JSON. -/
inductive SyntaxError where
  /-- The text ends too early. -/
  | unexpectedEnd
  /-- A character cannot stand where it stands. -/
  | malformed
  deriving DecidableEq, Repr

/-- The smallest pieces of a JSON text. -/
inductive Token where
  | openArray
  | closeArray
  | openObject
  | closeObject
  | colon
  | comma
  | null
  | bool (flag : Bool)
  | number (number : Number)
  | string (text : String)
  /-- A text that was opened by a quote and fails before its end. -/
  | brokenString (error : SyntaxError)
  /-- Any other piece that fails before its end. -/
  | brokenScalar (error : SyntaxError)

/-- White space between tokens. -/
def isSpace (char : Char) : Bool :=
  char == ' ' || char == '\n' || char == '\t' || char == '\r'

/-- The value of a decimal digit. -/
def digit? (char : Char) : Option Nat :=
  if '0' ≤ char ∧ char ≤ '9' then some (char.toNat - '0'.toNat) else none

namespace Numeral

/-- The largest significand that is kept exactly. -/
def largestSignificand : Nat := Word.largest 64

/-- The largest magnitude of a negative integer. -/
def largestNegative : Nat := Word.size 63

/-- The largest exponent that is kept exactly. -/
def largestExponent : Nat := Word.largest 31

/-- How far a number has been read.  `shift` is the power of ten that the
digits read so far call for. -/
inductive Phase where
  /-- Only the minus sign was read. -/
  | sign
  /-- The integer part is a single zero. -/
  | zero
  /-- Digits of the integer part were read, all of them kept. -/
  | whole (significand : Nat)
  /-- The integer part is too long, and its later digits only shift. -/
  | longWhole (significand : Nat) (shift : Int)
  /-- The decimal point was read and a digit must follow. -/
  | point (significand : Nat) (shift : Int)
  /-- Digits behind the point were read, all of them kept. -/
  | fraction (significand : Nat) (shift : Int)
  /-- The fraction is too long, and its later digits are left out. -/
  | longFraction (significand : Nat) (shift : Int)
  /-- The exponent letter was read. -/
  | letter (significand : Nat) (shift : Int)
  /-- The sign of the exponent was read and a digit must follow. -/
  | exponentSign (significand : Nat) (shift : Int) (negative : Bool)
  /-- Digits of the exponent were read. -/
  | exponent (significand : Nat) (shift : Int) (negative : Bool) (value : Nat)
  /-- The exponent is too long, and the number is zero. -/
  | longExponent

/-- What a character does to a number that is being read. -/
inductive Extension where
  /-- The character belongs to the number. -/
  | continues (phase : Phase)
  /-- The number ended before the character. -/
  | ends
  /-- The number cannot go on or end like this. -/
  | fails

/-- The phase after one more digit of the integer part. -/
def wholeDigit (significand digit : Nat) : Phase :=
  if largestSignificand < significand * 10 + digit then .longWhole significand 1
  else .whole (significand * 10 + digit)

/-- The phase after one more digit behind the point. -/
def fractionDigit (significand : Nat) (shift : Int) (digit : Nat) : Phase :=
  if largestSignificand < significand * 10 + digit then .longFraction significand shift
  else .fraction (significand * 10 + digit) (shift - 1)

/-- What one more digit of the exponent does. -/
def exponentDigit (significand : Nat) (shift : Int) (negative : Bool) (value digit : Nat) :
    Extension :=
  if largestExponent < value * 10 + digit then
    if significand != 0 && !negative then .fails else .continues .longExponent
  else
    .continues (.exponent significand shift negative (value * 10 + digit))

/-- The letter that introduces an exponent. -/
def isExponentLetter (char : Char) : Bool :=
  char == 'e' || char == 'E'

/-- What a character does to a number in a given phase. -/
def Phase.extend (phase : Phase) (char : Char) : Extension :=
  match phase, digit? char with
  | .sign, some digit => .continues (if digit = 0 then .zero else .whole digit)
  | .sign, none => .fails
  | .zero, some _ => .fails
  | .zero, none =>
    if char == '.' then .continues (.point 0 0)
    else if isExponentLetter char then .continues (.letter 0 0)
    else .ends
  | .whole significand, some digit => .continues (wholeDigit significand digit)
  | .whole significand, none =>
    if char == '.' then .continues (.point significand 0)
    else if isExponentLetter char then .continues (.letter significand 0)
    else .ends
  | .longWhole significand shift, some _ => .continues (.longWhole significand (shift + 1))
  | .longWhole significand shift, none =>
    if char == '.' then .continues (.point significand shift)
    else if isExponentLetter char then .continues (.letter significand shift)
    else .ends
  | .point significand shift, some digit =>
    .continues (fractionDigit significand shift digit)
  | .point _ _, none => .fails
  | .fraction significand shift, some digit =>
    .continues (fractionDigit significand shift digit)
  | .fraction significand shift, none =>
    if isExponentLetter char then .continues (.letter significand shift) else .ends
  | .longFraction significand shift, some _ => .continues (.longFraction significand shift)
  | .longFraction significand shift, none =>
    if isExponentLetter char then .continues (.letter significand shift) else .ends
  | .letter significand shift, some digit =>
    exponentDigit significand shift false 0 digit
  | .letter significand shift, none =>
    if char == '+' then .continues (.exponentSign significand shift false)
    else if char == '-' then .continues (.exponentSign significand shift true)
    else .fails
  | .exponentSign significand shift negative, some digit =>
    exponentDigit significand shift negative 0 digit
  | .exponentSign _ _ _, none => .fails
  | .exponent significand shift negative value, some digit =>
    exponentDigit significand shift negative value digit
  | .exponent _ _ _ _, none => .ends
  | .longExponent, some _ => .continues .longExponent
  | .longExponent, none => .ends

/-- A floating point number with its sign. -/
def signed (negative : Bool) (value : Float) : Number :=
  .float (if negative then -value else value)

/-- The number written as an integer.  A negative zero and a negative integer
beyond 64 bits are floating point numbers. -/
def ofWhole (negative : Bool) (significand : Nat) : Number :=
  if negative then
    if significand == 0 || largestNegative < significand then
      signed true (Float.ofNat significand)
    else
      .integer (-significand)
  else
    .integer significand

/-- The number written with a point or an exponent. -/
def ofScaled (negative : Bool) (significand : Nat) (exponent : Int) :
    Except SyntaxError Number :=
  match Decimal.scaled? significand exponent with
  | some value => .ok (signed negative value)
  | none => .error .malformed

/-- The number that ends in a given phase. -/
def Phase.finish (negative : Bool) : Phase → Except SyntaxError Number
  | .zero => .ok (ofWhole negative 0)
  | .whole significand => .ok (ofWhole negative significand)
  | .longWhole significand shift => ofScaled negative significand shift
  | .fraction significand shift => ofScaled negative significand shift
  | .longFraction significand shift => ofScaled negative significand shift
  | .exponent significand shift belowOne value =>
    ofScaled negative significand (if belowOne then shift - value else shift + value)
  | .longExponent => .ok (signed negative 0)
  | .sign | .point _ _ | .letter _ _ | .exponentSign _ _ _ => .error .unexpectedEnd

end Numeral

namespace Token

/-- What has been read of the token that is open. -/
inductive Progress where
  /-- No token is open. -/
  | between
  /-- Part of a word was read, and the given characters must follow. -/
  | word (expected : Char) (missing : List Char) (token : Token)
  /-- Part of a string was read; its characters are kept in reverse. -/
  | text (read : List Char)
  /-- A backslash was read in a string. -/
  | escape (read : List Char)
  /-- Part of a `\u` escape was read, perhaps the second one of a pair. -/
  | code (read : List Char) (lead : Option Nat) (count value : Nat)
  /-- The first half of a pair was read, and a backslash must follow. -/
  | pairBackslash (read : List Char) (lead : Nat)
  /-- The first half of a pair and a backslash were read, and `u` must follow. -/
  | pairLetter (read : List Char) (lead : Nat)
  /-- Part of a number was read. -/
  | number (negative : Bool) (phase : Numeral.Phase)

/-- The tokens that a character completes, and the progress after it; no
progress means that the rest of the text is not looked at. -/
abbrev Step := List Token × Option Progress

/-- The progress after the first character of a token. -/
def start (char : Char) : Step :=
  match char with
  | '[' => ([.openArray], some .between)
  | ']' => ([.closeArray], some .between)
  | '\x7b' => ([.openObject], some .between)
  | '\x7d' => ([.closeObject], some .between)
  | ':' => ([.colon], some .between)
  | ',' => ([.comma], some .between)
  | '"' => ([], some (.text []))
  | 'n' => ([], some (.word 'u' ['l', 'l'] .null))
  | 't' => ([], some (.word 'r' ['u', 'e'] (.bool true)))
  | 'f' => ([], some (.word 'a' ['l', 's', 'e'] (.bool false)))
  | '-' => ([], some (.number true .sign))
  | char =>
    match digit? char with
    | some digit =>
      ([], some (.number false (if digit = 0 then .zero else .whole digit)))
    | none =>
      if isSpace char then ([], some .between)
      else ([.brokenScalar .malformed], none)

/-- Give up on a string. -/
def failString (error : SyntaxError) : Step :=
  ([.brokenString error], none)

/-- The character that a backslash and a letter stand for. -/
def simpleEscape? : Char → Option Char
  | '"' => some '"'
  | '\\' => some '\\'
  | '/' => some '/'
  | 'b' => some '\x08'
  | 'f' => some '\x0c'
  | 'n' => some '\n'
  | 'r' => some '\r'
  | 't' => some '\t'
  | _ => none

/-- The progress after the four digits of a `\u` escape.  The two halves of a
pair must stand together in their order. -/
def finishCode (read : List Char) (lead : Option Nat) (value : Nat) : Step :=
  let isLead := 0xD800 ≤ value ∧ value ≤ 0xDBFF
  let isTrail := 0xDC00 ≤ value ∧ value ≤ 0xDFFF
  match lead with
  | none =>
    if isTrail then failString .malformed
    else if isLead then ([], some (.pairBackslash read value))
    else ([], some (.text (Char.ofNat value :: read)))
  | some high =>
    if isTrail then
      let code := (high - 0xD800) * 0x400 + (value - 0xDC00) + 0x10000
      ([], some (.text (Char.ofNat code :: read)))
    else
      failString .malformed

/-- Whether a text has at least `count` bytes in UTF-8. -/
def hasBytes : Nat → List Char → Bool
  | 0, _ => true
  | _ + 1, [] => false
  | count + 1, char :: rest => hasBytes (count + 1 - char.utf8Size) rest

/-- The tokens and the progress after one more character, before `rest`. -/
def Progress.step (progress : Progress) (char : Char) (rest : List Char) : Step :=
  match progress with
  | .between => start char
  | .word expected missing token =>
    if char == expected then
      match missing with
      | [] => ([token], some .between)
      | next :: later => ([], some (.word next later token))
    else
      ([.brokenScalar .malformed], none)
  | .text read =>
    if char == '"' then ([.string (String.ofList read.reverse)], some .between)
    else if char == '\\' then ([], some (.escape read))
    else if char.toNat < 0x20 then failString .malformed
    else ([], some (.text (char :: read)))
  | .escape read =>
    if char == 'u' then ([], some (.code read none 0 0))
    else
      match simpleEscape? char with
      | some plain => ([], some (.text (plain :: read)))
      | none => failString .malformed
  | .code read lead count value =>
    match Text.hexDigit? char with
    | some digit =>
      if count = 3 then finishCode read lead (value * 16 + digit)
      else ([], some (.code read lead (count + 1) (value * 16 + digit)))
    | none =>
      failString (if hasBytes (4 - count) (char :: rest) then .malformed else .unexpectedEnd)
  | .pairBackslash read lead =>
    if char == '\\' then ([], some (.pairLetter read lead)) else failString .malformed
  | .pairLetter read lead =>
    if char == 'u' then ([], some (.code read (some lead) 0 0)) else failString .malformed
  | .number negative phase =>
    match phase.extend char with
    | .continues next => ([], some (.number negative next))
    | .fails => ([.brokenScalar .malformed], none)
    | .ends =>
      match phase.finish negative with
      | .ok finished =>
        let next := start char
        (.number finished :: next.1, next.2)
      | .error error => ([.brokenScalar error], none)

/-- The tokens that the end of the text completes. -/
def Progress.atEnd : Progress → List Token
  | .between => []
  | .word _ _ _ => [.brokenScalar .unexpectedEnd]
  | .number negative phase =>
    match phase.finish negative with
    | .ok finished => [.number finished]
    | .error error => [.brokenScalar error]
  | _ => [.brokenString .unexpectedEnd]

/-- The tokens of a text, given the progress before it. -/
def scan : Progress → List Char → List Token
  | progress, [] => progress.atEnd
  | progress, char :: rest =>
    match progress.step char rest with
    | (tokens, some next) => tokens ++ scan next rest
    | (tokens, none) => tokens

/-- The tokens of a text. -/
def ofText (text : String) : List Token :=
  scan .between text.toList

@[simp] theorem scan_nil (progress : Progress) : scan progress [] = progress.atEnd := by
  cases progress <;> rfl

end Token
end Json
end SyncWatch
