import SyncWatch.Text.Runs
import SyncWatch.Text.WidthTable

/-!
# Letters that are drawn as one

Some scripts join a letter with the one in front of it, so that both take the
columns of one.  A text is read from its end on, and a tail is the part of a
ligature that stands at its end.
-/

namespace SyncWatch
namespace Text
namespace Ligature

/-- The end of what may become a ligature. -/
inductive Tail where
  /-- The Arabic letter alef. -/
  | alef
  /-- The Hebrew letter lamed. -/
  | lamed
  /-- The Buginese letter ya. -/
  | ya
  /-- The Buginese vowel i with a ya joined to it. -/
  | vowelAndYa
  /-- A Tifinagh consonant. -/
  | consonant
  /-- A Tifinagh consonant with the consonant joiner in front of it. -/
  | joinerAndConsonant
  /-- The second half of a Lisu tone. -/
  | tone
  /-- The Old Turkic letter i. -/
  | orkhonI
  /-- A Khmer letter that can be written below another. -/
  | subscript
  /-- The Kirat Rai vowel e. -/
  | vowelE
  /-- The Kirat Rai vowel ai. -/
  | vowelAi
  deriving DecidableEq, Repr

/-- The Arabic letters that form a ligature with an alef behind them. -/
def lams : List (Nat × Nat) :=
  [(0x644, 0x644), (0x6B5, 0x6B8), (0x76A, 0x76A), (0x8A6, 0x8A6), (0x8C7, 0x8C7)]

/-- The consonants of Tifinagh. -/
def consonants : List (Nat × Nat) :=
  [(0x2D31, 0x2D65), (0x2D6F, 0x2D6F)]

/-- The characters that can be the end of a ligature. -/
def tails : List (Tail × List (Nat × Nat)) :=
  [(.alef, [(0x622, 0x623), (0x625, 0x625), (0x627, 0x627), (0x671, 0x673), (0x675, 0x675),
      (0x773, 0x774), (0x870, 0x882)]),
    (.lamed, [(0x5DC, 0x5DC)]),
    (.ya, [(0x1A10, 0x1A10)]),
    (.consonant, consonants),
    (.tone, [(0xA4FC, 0xA4FD)]),
    (.orkhonI, [(0x10C03, 0x10C03)]),
    (.subscript, [(0x1780, 0x1782), (0x1784, 0x1787), (0x1789, 0x178C), (0x178E, 0x1793),
      (0x1795, 0x1798), (0x179B, 0x179D), (0x17A0, 0x17A0), (0x17A2, 0x17A2), (0x17A7, 0x17A7),
      (0x17AB, 0x17AC), (0x17AF, 0x17AF)]),
    (.vowelE, [(0x16D67, 0x16D67)]),
    (.vowelAi, [(0x16D68, 0x16D68)])]

/-- The tail that a character is on its own. -/
def Tail.ofCode? (code : Nat) : Option Tail :=
  (tails.find? fun entry => inRuns entry.2 code).map (·.1)

/-- Characters of no column through which Arabic letters do not join. -/
def opaqueMarks : List (Nat × Nat) :=
  [(0x605, 0x605), (0x890, 0x891), (0x8E2, 0x8E2), (0x9BE, 0x9BE), (0x9D7, 0x9D7), (0xB3E, 0xB3E),
    (0xB57, 0xB57), (0xBBE, 0xBBE), (0xBD7, 0xBD7), (0xCC0, 0xCC0), (0xCC2, 0xCC2),
    (0xCC7, 0xCC8), (0xCCA, 0xCCB), (0xCD5, 0xCD6), (0xD3E, 0xD3E), (0xD57, 0xD57),
    (0xDCF, 0xDCF), (0xDDF, 0xDDF), (0x1160, 0x11FF), (0x1715, 0x1715), (0x1734, 0x1734),
    (0x180E, 0x180E), (0x1B35, 0x1B35), (0x1B3B, 0x1B3B), (0x1B3D, 0x1B3D), (0x1B43, 0x1B44),
    (0x1BAA, 0x1BAA), (0x1BF2, 0x1BF3), (0x200C, 0x200D), (0x2065, 0x2069), (0x302E, 0x302F),
    (0x3164, 0x3164), (0xA8FA, 0xA8FA), (0xA953, 0xA953), (0xA9C0, 0xA9C0), (0xD7B0, 0xD7C6),
    (0xD7CB, 0xD7FB), (0xFF9E, 0xFFA0), (0xFFF0, 0xFFF8), (0x111C0, 0x111C0),
    (0x11235, 0x11235), (0x1133E, 0x1133E), (0x1134D, 0x1134D), (0x11357, 0x11357),
    (0x113B8, 0x113B8), (0x113C2, 0x113C2), (0x113C5, 0x113C5), (0x113C7, 0x113C9),
    (0x113CF, 0x113CF), (0x114B0, 0x114B0), (0x114BD, 0x114BD), (0x115AF, 0x115AF),
    (0x116B6, 0x116B6), (0x11930, 0x11930), (0x1193D, 0x1193D), (0x11F41, 0x11F41),
    (0x16FF0, 0x16FF1), (0x1D165, 0x1D166), (0x1D16D, 0x1D172), (0xE0000, 0xE0000),
    (0xE0002, 0xE001F), (0xE0080, 0xE00FF), (0xE01F0, 0xE0FFF)]

/-- Whether Arabic letters join through a character. -/
def isTransparent (code : Nat) : Bool :=
  inRuns WidthTable.zero code && !inRuns opaqueMarks code

/-- Whether a mark is ignored in the middle of the ligatures of all other scripts. -/
def isIgnored (code : Nat) : Bool :=
  inRuns
    [(0x34F, 0x34F), (0x17B4, 0x17B5), (0x180B, 0x180D), (0x180F, 0x180F), (0xFE00, 0xFE0D),
      (0xE0100, 0xE01EF)]
    code

/-- A tail, and whether a joiner stands in front of it. -/
structure Joinable where
  tail : Tail
  joined : Bool := false
  deriving DecidableEq, Repr

namespace Joinable

/-- How many columns a letter adds in front of a tail that it is drawn with, and
the tail of the two. -/
def meet? (behind : Joinable) (code : Nat) : Option (Int × Option Joinable) :=
  match behind.tail with
  | .alef =>
    if inRuns lams code then some (0, none)
    else if isTransparent code then some (0, some behind)
    else none
  | .lamed => if behind.joined && code == 0x5D0 then some (0, none) else none
  | .ya => if behind.joined && code == 0x1A17 then some (0, some ⟨.vowelAndYa, true⟩) else none
  | .vowelAndYa => if code == 0x1A15 then some (0, none) else none
  | .consonant =>
    if code == 0x2D7F then some (1, some ⟨.joinerAndConsonant, true⟩)
    else if behind.joined && inRuns consonants code then some (0, none)
    else none
  | .joinerAndConsonant => if inRuns consonants code then some (-1, none) else none
  | .tone => if inRuns [(0xA4F8, 0xA4FB)] code then some (0, none) else none
  | .orkhonI => if behind.joined && code == 0x10C32 then some (0, none) else none
  | .subscript => if code == 0x17D2 then some (-1, none) else none
  | .vowelE =>
    if code == 0x16D67 then some (0, some ⟨.vowelAi, false⟩)
    else if code == 0x16D63 || code == 0x16D69 then some (0, none)
    else none
  | .vowelAi => if code == 0x16D63 then some (0, none) else none

/-- How many columns a character adds in front of a tail, and what is the tail
then; nothing when it is not drawn with it. -/
def prepend? (behind : Joinable) (code : Nat) : Option (Int × Option Joinable) :=
  if behind.tail != .alef && code == 0x200D then some (0, some { behind with joined := true })
  else if behind.tail != .alef && isIgnored code then some (0, some behind)
  else behind.meet? code

end Joinable
end Ligature
end Text
end SyncWatch
