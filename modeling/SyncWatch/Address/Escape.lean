import SyncWatch.Text.Digit
import SyncWatch.Text.Utf8

/-!
# Escapes in addresses

A character that cannot stand for itself in a part of an address is written as
its bytes, each with a percent sign and two hexadecimal digits.  Which
characters these are depends on the part.
-/

namespace SyncWatch
namespace Address

/-- Whether a character is neither printable ASCII nor a space. -/
def isControl (char : Char) : Bool :=
  char.toNat < 0x20 || 0x7E < char.toNat

/-- Whether a character is escaped in a fragment. -/
def isEscapedInFragment (char : Char) : Bool :=
  isControl char || " \"<>\x60".toList.contains char

/-- Whether a character is escaped in a path. -/
def isEscapedInPath (char : Char) : Bool :=
  isEscapedInFragment char || "#?\x7b\x7d".toList.contains char

/-- Whether a character is escaped in a query. -/
def isEscapedInQuery (special : Bool) (char : Char) : Bool :=
  isControl char || " \"#<>".toList.contains char || (special && char == '\x27')

/-- A hexadecimal digit as a capital. -/
def capitalDigit (digit : Nat) : Char :=
  (Nat.digitChar digit).toUpper

/-- The escape of a byte. -/
def escapeByte (byte : UInt8) : List Char :=
  ['%', capitalDigit (byte.toNat / 16), capitalDigit (byte.toNat % 16)]

/-- The text with the escapes of all characters that need them. -/
def escape (isEscaped : Char → Bool) (text : List Char) : List Char :=
  text.flatMap fun char =>
    if isEscaped char then (String.utf8EncodeChar char).flatMap escapeByte else [char]

@[simp] theorem escape_nil (isEscaped : Char → Bool) : escape isEscaped [] = [] := rfl

/-- The bytes of a text in which escapes stand for bytes. -/
def unescapedBytes : List Char → List UInt8
  | [] => []
  | '%' :: high :: low :: rest =>
    match Text.hexDigit? high, Text.hexDigit? low with
    | some high, some low => UInt8.ofNat (high * 16 + low) :: unescapedBytes rest
    | _, _ => '%'.toUInt8 :: unescapedBytes (high :: low :: rest)
  | char :: rest => String.utf8EncodeChar char ++ unescapedBytes rest

/-- The text with characters in place of their escapes. -/
def unescape? (text : List Char) : Option (List Char) :=
  match Text.decodeUtf8 (unescapedBytes text) with
  | (chars, none) => some chars
  | (_, some _) => none

end Address
end SyncWatch
