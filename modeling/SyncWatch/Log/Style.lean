import SyncWatch.Text.LetterCase
import SyncWatch.Text.Search

/-!
# Styles of log lines

What a line means to the reader, and a guess at it from the words of the line.
-/

namespace SyncWatch
namespace Log

/-- What a line means; the display decides what it looks like. -/
inductive LineStyle where
  | plain
  | info
  | success
  | warning
  | error
  /-- The beginning of a run or of a pair. -/
  | header
  /-- A detail of little weight. -/
  | muted
  /-- The text as it was sent. -/
  | raw
  deriving DecidableEq, Repr

/-- A line as it is shown. -/
structure StyledText where
  text : String
  style : LineStyle
  deriving DecidableEq, Repr

/-- The style that the words of a line suggest; the first hint decides. -/
def classify (line : String) : LineStyle :=
  let lower := Text.lowerAscii line
  let mentions := Text.contains lower
  let begins := Text.startsWith lower
  if mentions "error" || mentions "failed" || mentions "traceback" then .error
  else if mentions "warn" || mentions "retry" then .warning
  else if begins "> sync start" || begins "sync start" then .header
  else if begins "[i]" then .info
  else if mentions "sync complete" || begins "[sync] exit code: 0" then .success
  else if line.isEmpty then .muted
  else .plain

end Log
end SyncWatch
