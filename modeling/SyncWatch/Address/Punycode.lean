/-!
# Punycode

A label with characters beyond ASCII is written in ASCII: first its ASCII
characters, then a number for each of the others.  A number counts the places
and characters that are passed over on the way from the last one, in digits
whose base changes from place to place.
-/

namespace SyncWatch
namespace Address
namespace Punycode

/-- The number of digits. -/
def base : Nat := 36

/-- The smallest character that is not written as itself. -/
def firstCode : Nat := 128

/-- The first estimate of how long numbers are. -/
def firstBias : Nat := 72

/-- The largest digit that ends a number at a place, for a place counted in
multiples of the base. -/
def threshold (place bias : Nat) : Nat :=
  max 1 (min 26 (place - bias))

/-- Divide a number until it is small, and count the places. -/
def settle (places delta : Nat) : Nat :=
  if 455 < delta then settle (places + base) (delta / 35)
  else places + 36 * delta / (delta + 38)
termination_by delta

/-- The estimate of how long the next number is, from the last one and the count
of the characters so far. -/
def nextBias (delta count : Nat) (first : Bool) : Nat :=
  let scaled := if first then delta / 700 else delta / 2
  settle 0 (scaled + scaled / count)

/-- The digit for a number below the base: a letter, and behind them ten figures. -/
def digitChar (digit : Nat) : Char :=
  if digit < 26 then Char.ofNat ('a'.toNat + digit) else Char.ofNat ('0'.toNat + digit - 26)

/-- The number that a digit stands for. -/
def digit? (char : Char) : Option Nat :=
  if 'a' ≤ char ∧ char ≤ 'z' then some (char.toNat - 'a'.toNat)
  else if '0' ≤ char ∧ char ≤ '9' then some (char.toNat - '0'.toNat + 26)
  else none

/-- The digits of a number, the least significant one first. -/
def digits (bias place number : Nat) : List Char :=
  let limit := threshold place bias
  if number < limit then [digitChar number]
  else
    digitChar (limit + (number - limit) % (base - limit)) ::
      digits bias (place + base) ((number - limit) / (base - limit))
termination_by number
decreasing_by
  have positive : 1 ≤ threshold place bias := Nat.le_max_left _ _
  have := Nat.div_le_self (number - threshold place bias) (base - threshold place bias)
  omega

/-- How far the writing of a label is. -/
structure Writer where
  /-- What is passed over since the last character. -/
  delta : Nat := 0
  bias : Nat := firstBias
  /-- How many characters are written. -/
  written : Nat
  /-- Whether all of them are ASCII. -/
  first : Bool := true
  output : List Char

namespace Writer

/-- Pass over a character, or write it if it is the one whose turn it is. -/
def pass (turn : Nat) (writer : Writer) (code : Nat) : Writer :=
  if code < turn then { writer with delta := writer.delta + 1 }
  else if code == turn then
    { delta := 0
      bias := nextBias writer.delta (writer.written + 1) writer.first
      written := writer.written + 1
      first := false
      output := writer.output ++ digits writer.bias base writer.delta }
  else writer

/-- Write every occurrence of a character; the numbers also count the characters
between the last one and this one. -/
def turn (codes : List Nat) (state : Writer × Nat) (code : Nat) : Writer × Nat :=
  let (writer, next) := state
  let begun := { writer with delta := writer.delta + (code - next) * (writer.written + 1) }
  let done := codes.foldl (pass code) begun
  ({ done with delta := done.delta + 1 }, code + 1)

end Writer

/-- The ASCII text of a label. -/
def encode (label : List Char) : List Char :=
  let codes := label.map Char.toNat
  let plain := label.filter fun char => char.toNat < firstCode
  let others := ((codes.filter (firstCode ≤ ·)).mergeSort (· ≤ ·)).eraseDups
  let start : Writer :=
    { written := plain.length
      output := if plain.isEmpty then [] else plain ++ ['-'] }
  (others.foldl (Writer.turn codes) (start, firstCode)).1.output

/-- How far the reading of a label is. -/
structure Reader where
  label : List Char
  /-- The place and the character that were reached, as one number. -/
  index : Nat := 0
  code : Nat := firstCode
  bias : Nat := firstBias
  /-- The number that is being read, and the worth of its next digit. -/
  number : Nat := 0
  weight : Nat := 1
  place : Nat := base

namespace Reader

/-- Put the character of a complete number in its place. -/
def insert? (reader : Reader) (number : Nat) : Option Reader := do
  let count := reader.label.length + 1
  let total := reader.index + number
  let code := reader.code + total / count
  let index := total % count
  guard (code < 0xD800 ∨ (0xDFFF < code ∧ code < 0x110000))
  return {
    label := reader.label.take index ++ Char.ofNat code :: reader.label.drop index
    index := index + 1
    code
    bias := nextBias number count (reader.index == 0) }

/-- Read one digit. -/
def step? (reader : Reader) (char : Char) : Option Reader := do
  let digit ← digit? char
  let number := reader.number + digit * reader.weight
  let limit := threshold reader.place reader.bias
  if digit < limit then reader.insert? number
  else
    return { reader with
      number
      weight := reader.weight * (base - limit)
      place := reader.place + base }

end Reader

/-- The text in front of the last hyphen, and what follows it. -/
def parts (text : List Char) : List Char × List Char :=
  let ending := (text.reverse.takeWhile (· != '-')).reverse
  (text.take (text.length - ending.length - 1), ending)

/-- The label that an ASCII text stands for. -/
def decode? (text : List Char) : Option (List Char) := do
  let (plain, rest) := parts text
  let reader ← rest.foldlM Reader.step? { label := plain }
  guard (reader.weight = 1)
  return reader.label

end Punycode
end Address
end SyncWatch
