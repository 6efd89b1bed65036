import SyncWatch.Text.Ligature
import SyncWatch.Text.Pictograph

/-!
# How many columns a text takes

A terminal gives a character no, one or two columns.  Letters and pictures that
are drawn as one take fewer than each of them alone, so that a text is read from
its end on with what stands behind a character.
-/

namespace SyncWatch
namespace Text

/-- How many columns a character takes on its own. -/
def charWidth (code : Nat) : Nat :=
  if code ≤ 0xA0 then 1
  else if code == 0x17D8 then 3
  else if inRuns WidthTable.wide code then 2
  else if inRuns WidthTable.zero code then 0
  else 1

/-- The sum of widths. -/
def total (widths : List Nat) : Nat :=
  widths.foldr (· + ·) 0

/-- What stands behind a character, as far as it is drawn with it. -/
inductive Tail where
  | nothing
  | lineFeed
  | ligature (tail : Ligature.Joinable)
  | pictograph (tail : Pictograph.Tail)
  deriving DecidableEq, Repr

/-- A mark that picks the form of the character in front of it. -/
inductive Selector where
  | coloured
  | plain
  deriving DecidableEq, Repr

/-- The selector that a code point is. -/
def Selector.ofCode? (code : Nat) : Option Selector :=
  if code == 0xFE0F then some .coloured else if code == 0xFE0E then some .plain else none

/-- What stands behind a character: a selector, and what is behind that. -/
structure Behind where
  tail : Tail := .nothing
  selector : Option Selector := none
  deriving DecidableEq, Repr

namespace Behind

/-- Whether a coloured picture here is joined to the one behind it. -/
def isJoined (behind : Behind) : Bool :=
  behind.tail == .pictograph .joined || behind.tail == .pictograph .joinedKey

/-- Put a selector in front.  Ligatures form through it, and a coloured picture
is joined through it. -/
def select (behind : Behind) (selector : Selector) : Behind :=
  match behind.tail with
  | .ligature _ => { behind with selector := some selector }
  | _ =>
    if selector == .coloured && behind.isJoined then { behind with selector := some selector }
    else { selector := some selector }

/-- What is left of a selector that did not fit the character in front of it. -/
def unselect (behind : Behind) : Behind :=
  match behind.tail, behind.selector with
  | .ligature _, _ | _, none => { behind with selector := none }
  | _, some _ => {}

/-- How many columns a character adds in front, and what stands behind the next one. -/
def prependAlone (code : Nat) : Int × Behind :=
  let tail :=
    match Ligature.Tail.ofCode? code, Pictograph.Tail.ofCode? code with
    | some tail, _ => .ligature ⟨tail, false⟩
    | none, some tail => .pictograph tail
    | none, none => .nothing
  (charWidth code, { tail })

/-- The same for a character without a selector behind it. -/
def prependPlain (behind : Behind) (code : Nat) : Int × Behind :=
  match behind.tail with
  | .ligature tail =>
    match tail.prepend? code with
    | some (columns, some tail) => (columns, { tail := .ligature tail })
    | some (columns, none) => (columns, {})
    | none => prependAlone code
  | .pictograph tail =>
    match tail.prepend? code with
    | some (columns, tail) => (columns, { tail := .pictograph tail })
    | none => prependAlone code
  | _ => prependAlone code

/-- How many columns a character adds in front of a text, and what stands behind
the next one. -/
def prepend (behind : Behind) (code : Nat) : Int × Behind :=
  if behind.selector == some .coloured && Pictograph.isSelectable code then
    (if behind.isJoined then 0 else 2, { tail := .pictograph .picture })
  else if behind.selector == some .plain && Pictograph.canBePlain code then
    (1, {})
  else
    let behind := behind.unselect
    if code ≤ 0xA0 then
      if code == 0x0A then (1, { tail := .lineFeed })
      else if code == 0x0D && behind.tail == .lineFeed then (0, {})
      else (1, {})
    else
      match Selector.ofCode? code with
      | some selector => (0, behind.select selector)
      | none => behind.prependPlain code

end Behind

/-- How many columns a text takes, and what stands behind a character in front of it. -/
def measure : List Char → Int × Behind
  | [] => (0, {})
  | char :: rest =>
    let (columns, behind) := measure rest
    let (more, behind) := behind.prepend char.toNat
    (columns + more, behind)

/-- How many columns a text takes. -/
def width (text : List Char) : Nat :=
  (measure text).1.toNat

/-- The empty text takes no column. -/
@[simp] theorem width_nil : width [] = 0 :=
  rfl

end Text
end SyncWatch
