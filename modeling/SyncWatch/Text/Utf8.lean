/-!
# Text in bytes

Bytes are read as UTF-8, one byte at a time.  Reading stops at the first byte
that cannot belong to a character, and says how many bytes are wrong there.
-/

namespace SyncWatch
namespace Text

/-- What is wrong where bytes encode no further character. -/
inductive Utf8Fault where
  /-- The bytes end within a character. -/
  | cut
  /-- A number of bytes begins no character. -/
  | wrong (count : Nat)
  deriving DecidableEq, Repr

/-- The message of a fault at the beginning of the bytes. -/
def Utf8Fault.message : Utf8Fault → String
  | .cut => "incomplete utf-8 byte sequence from index 0"
  | .wrong count => "invalid utf-8 sequence of " ++ toString count ++ " bytes from index 0"

/-- A character of which some bytes are still to come. -/
structure Utf8Start where
  /-- How many bytes are still to come; there is at least one. -/
  owed : Nat
  /-- How many bytes were read. -/
  count : Nat
  /-- The code point as far as it is known. -/
  code : Nat
  /-- The next byte is at least this. -/
  lowest : Nat := 0x80
  /-- The next byte is at most this. -/
  highest : Nat := 0xBF
  deriving DecidableEq, Repr

/-- What the first byte of a character of several bytes promises. -/
def utf8Start? (byte : Nat) : Option Utf8Start :=
  if byte < 0xC2 then none
  else if byte ≤ 0xDF then some { owed := 1, count := 1, code := byte - 0xC0 }
  else if byte ≤ 0xEF then
    some
      { owed := 2
        count := 1
        code := byte - 0xE0
        lowest := if byte = 0xE0 then 0xA0 else 0x80
        highest := if byte = 0xED then 0x9F else 0xBF }
  else if byte ≤ 0xF4 then
    some
      { owed := 3
        count := 1
        code := byte - 0xF0
        lowest := if byte = 0xF0 then 0x90 else 0x80
        highest := if byte = 0xF4 then 0x8F else 0xBF }
  else none

/-- The characters that bytes encode after the start of a character, up to the
first fault. -/
def decodeUtf8From : Option Utf8Start → List UInt8 → List Char × Option Utf8Fault
  | none, [] => ([], none)
  | some _, [] => ([], some .cut)
  | none, byte :: rest =>
    if byte < 0x80 then
      let (chars, fault) := decodeUtf8From none rest
      (Char.ofNat byte.toNat :: chars, fault)
    else
      match utf8Start? byte.toNat with
      | some start => decodeUtf8From (some start) rest
      | none => ([], some (.wrong 1))
  | some start, byte :: rest =>
    let code := start.code * 64 + byte.toNat % 64
    if byte.toNat < start.lowest || start.highest < byte.toNat then
      ([], some (.wrong start.count))
    else if start.owed ≤ 1 then
      let (chars, fault) := decodeUtf8From none rest
      (Char.ofNat code :: chars, fault)
    else
      decodeUtf8From (some { owed := start.owed - 1, count := start.count + 1, code }) rest

/-- The characters that bytes encode, up to the first fault. -/
def decodeUtf8 (bytes : List UInt8) : List Char × Option Utf8Fault :=
  decodeUtf8From none bytes

@[simp] theorem decodeUtf8_nil : decodeUtf8 [] = ([], none) := rfl

end Text
end SyncWatch
