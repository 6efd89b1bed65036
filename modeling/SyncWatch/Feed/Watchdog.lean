import SyncWatch.Duration

/-!
# Connections that fall silent

Some servers and proxies keep a dead connection open, and silence is the only
sign of it.  While the terminal is looked at, a silence beyond a threshold asks
for one new connection, which itself counts as a sign of life.
-/

namespace SyncWatch
namespace Feed

/-- The watch over the silence of one feed. -/
structure StalenessWatchdog where
  /-- The longest silence that is not stale. -/
  threshold : Duration
  armed : Bool := false
  /-- When the last new connection was asked for. -/
  lastForced : Option Instant := none
  deriving DecidableEq, Repr

namespace StalenessWatchdog

/-- Begin to watch a feed that was just opened. -/
def arm (watchdog : StalenessWatchdog) : StalenessWatchdog :=
  { watchdog with armed := true, lastForced := none }

/-- Stop watching. -/
def disarm (watchdog : StalenessWatchdog) : StalenessWatchdog :=
  { watchdog with armed := false, lastForced := none }

/-- The last sign of life, a new connection that was asked for included. -/
def lastSign (watchdog : StalenessWatchdog) (lastActivity : Instant) : Instant :=
  match watchdog.lastForced with
  | some forced => max forced lastActivity
  | none => lastActivity

/-- Whether a new connection is due. -/
def isDue (watchdog : StalenessWatchdog) (now lastActivity : Instant) (visible : Bool) : Bool :=
  watchdog.armed && visible &&
    decide (watchdog.threshold.nanos < now - watchdog.lastSign lastActivity)

/-- The watch after a check. -/
def check (watchdog : StalenessWatchdog) (now lastActivity : Instant) (visible : Bool) :
    StalenessWatchdog :=
  if watchdog.isDue now lastActivity visible then
    { watchdog with lastForced := some now }
  else
    watchdog

end StalenessWatchdog
end Feed
end SyncWatch
