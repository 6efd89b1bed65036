import SyncWatch.Address.Escape
import SyncWatch.Address.Name

/-!
# Hosts

A host is an address of four bytes, an address of eight groups of two bytes in
brackets, or a name.
-/

namespace SyncWatch
namespace Address

/-- Whether a character ends or breaks a host. -/
def isForbiddenInHost (char : Char) : Bool :=
  "\x00\t\n\r #/:<>?@[\\]^|".toList.contains char

/-- Whether a character ends or breaks a host name. -/
def isForbiddenInName (char : Char) : Bool :=
  isForbiddenInHost char || isControl char || char == '%'

/-- The parts of a text between the separators in it. -/
def partsAt (separator : Char) (text : List Char) : List (List Char) :=
  text.splitOn separator

/-- The number that a part of a four-byte address stands for: a hexadecimal, an
octal or a decimal one. -/
def addressPart? : List Char → Option Nat
  | [] => none
  | '0' :: letter :: digits =>
    if letter == 'x' || letter == 'X' then
      if digits.isEmpty then some 0 else Text.natOfDigits? 16 digits
    else
      Text.natOfDigits? 8 (letter :: digits)
  | digits => Text.natOfDigits? 10 digits

/-- The parts of a name, without an empty one at the end. -/
def nameParts (name : List Char) : List (List Char) :=
  let parts := partsAt '.' name
  if 1 < parts.length && parts.getLast? == some [] then parts.dropLast else parts

/-- Whether a name has to be an address of four bytes, because its last part is
a number. -/
def endsInNumber (name : List Char) : Bool :=
  match (nameParts name).getLast? with
  | some part => (!part.isEmpty && part.all Char.isDigit) || (addressPart? part).isSome
  | none => false

/-- The number that the parts of an address stand for, of which the last one
fills all bytes that the others leave. -/
def addressNumber? : Nat → List Nat → Option Nat
  | _, [] => none
  | bytes, [last] => if last < Nat.pow 256 bytes then some last else none
  | bytes + 1, part :: rest => do
    guard (part < 256 ∧ 0 < bytes)
    return part * Nat.pow 256 bytes + (← addressNumber? bytes rest)
  | 0, _ => none

/-- The usual text of an address of four bytes. -/
def fourByteText (number : Nat) : List Char :=
  List.intercalate ['.']
    ([3, 2, 1, 0].map fun place => Nat.toDigits 10 (number / Nat.pow 256 place % 256))

/-- An address of four bytes, in its usual text. -/
def fourBytes? (name : List Char) : Option (List Char) := do
  let parts ← (nameParts name).mapM addressPart?
  return fourByteText (← addressNumber? 4 parts)

/-- The two groups that four decimal bytes at the end of an address stand for. -/
def groupsOfBytes? (text : List Char) : Option (List Nat) := do
  let bytes ← (partsAt '.' text).mapM fun part => do
    guard (part.length = 1 ∨ part.head? ≠ some '0')
    let byte ← Text.natOfDigits? 10 part
    guard (byte < 256)
    return byte
  match bytes with
  | [first, second, third, fourth] => return [first * 256 + second, third * 256 + fourth]
  | _ => none

/-- The groups of a part of an address that leaves none out. -/
def groups? : List (List Char) → Option (List Nat)
  | [] => some []
  | [last] =>
    if last.contains '.' then groupsOfBytes? last
    else do
      guard (last.length ≤ 4)
      return [← Text.natOfDigits? 16 last]
  | group :: rest => do
    guard (group.length ≤ 4)
    return (← Text.natOfDigits? 16 group) :: (← groups? rest)

/-- The texts before and after the first two colons in a row. -/
def splitAtGap? : List Char → Option (List Char × List Char)
  | ':' :: ':' :: rest => some ([], rest)
  | char :: rest => (splitAtGap? rest).map fun parts => (char :: parts.1, parts.2)
  | [] => none

/-- The groups of a possibly empty text. -/
def groupsOfText? (text : List Char) : Option (List Nat) :=
  if text.isEmpty then some [] else groups? (partsAt ':' text)

/-- The eight groups of an address between brackets.  Two colons in a row stand
for one or more groups of zero. -/
def eightGroups? (text : List Char) : Option (List Nat) :=
  match splitAtGap? text with
  | some (before, after) => do
    guard (!before.contains '.')
    let left ← groupsOfText? before
    let right ← groupsOfText? after
    guard (left.length + right.length < 8)
    return left ++ List.replicate (8 - left.length - right.length) 0 ++ right
  | none => do
    let groups ← groupsOfText? text
    guard (groups.length = 8)
    return groups

/-- How many groups at the beginning are zero. -/
def leadingZeros (groups : List Nat) : Nat :=
  (groups.takeWhile (· == 0)).length

/-- The place and the length of the first of the longest runs of zeros, from a
place on. -/
def longestZeros (place : Nat) : List Nat → Nat × Nat
  | [] => (place, 0)
  | group :: rest =>
    let here := leadingZeros (group :: rest)
    let later := longestZeros (place + 1) rest
    if later.2 ≤ here then (place, here) else later

/-- The usual text of eight groups, in which two colons stand for the longest
run of zeros if it is longer than one. -/
def groupsText (groups : List Nat) : List Char :=
  let text (groups : List Nat) : List Char :=
    List.intercalate [':'] (groups.map (Nat.toDigits 16))
  let (place, count) := longestZeros 0 groups
  if count ≤ 1 then text groups
  else text (groups.take place) ++ [':', ':'] ++ text (groups.drop (place + count))

/-- The usual text of a host.  In an address of a scheme without rules of its
own, a name keeps its escapes. -/
def host? (special : Bool) (text : List Char) : Option (List Char) :=
  match text with
  | '[' :: rest => do
    guard (rest.getLast? = some ']')
    return ['['] ++ groupsText (← eightGroups? rest.dropLast) ++ [']']
  | text =>
    if special then do
      let name ← nameText? (← unescape? text)
      guard (!name.isEmpty && !name.any isForbiddenInName)
      if endsInNumber name then fourBytes? name else return name
    else do
      guard (!text.any isForbiddenInHost)
      return escape isControl text

end Address
end SyncWatch
