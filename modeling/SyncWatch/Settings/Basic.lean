import SyncWatch.Backoff

/-!
# Settings

What can be set, with the values that hold when nothing is set.
-/

namespace SyncWatch

/-- Where the server is and which log is read. -/
structure ServerSettings where
  baseUrl : String := "http://localhost:8787"
  logTag : String := "SYNC"
  /-- How long an answer is waited for. -/
  requestTimeoutSeconds : Nat := 10
  deriving DecidableEq, Repr

/-- How the feeds connect again. -/
structure StreamSettings where
  initialRetryMillis : Nat := BackoffPolicy.defaultInitialMillis
  longestRetryMillis : Nat := BackoffPolicy.defaultLongestMillis
  stalenessSeconds : Nat := 20
  deriving DecidableEq, Repr

/-- How the log is shown. -/
structure DisplaySettings where
  /-- Whether lines are shown as they were sent. -/
  debug : Bool := false
  /-- Whether the log is shown line by line rather than as a summary. -/
  detailsOpen : Bool := true
  scrollTolerance : Nat := 1
  /-- How many lines are kept. -/
  bufferCapacity : Nat := 2000
  deriving DecidableEq, Repr

/-- Everything that can be set. -/
structure Settings where
  server : ServerSettings := {}
  stream : StreamSettings := {}
  display : DisplaySettings := {}
  deriving DecidableEq, Repr

namespace Settings

/-- The settings with another server. -/
def withBaseUrl (settings : Settings) (baseUrl : String) : Settings :=
  { settings with server := { settings.server with baseUrl } }

/-- The settings with another log. -/
def withLogTag (settings : Settings) (logTag : String) : Settings :=
  { settings with server := { settings.server with logTag } }

/-- The settings with lines as they were sent, or in their readable form. -/
def withDebug (settings : Settings) (debug : Bool) : Settings :=
  { settings with display := { settings.display with debug } }

/-- The settings with the details shown or hidden. -/
def withDetails (settings : Settings) (detailsOpen : Bool) : Settings :=
  { settings with display := { settings.display with detailsOpen } }

end Settings

/-- What a command line sets in place of the settings of a file. -/
structure Overrides where
  baseUrl : Option String := none
  logTag : Option String := none
  /-- Whether lines are shown as they were sent, whatever the file says. -/
  debug : Bool := false
  /-- Whether the details are hidden, whatever the file says. -/
  summary : Bool := false
  deriving DecidableEq, Repr

namespace Overrides

/-- The settings with everything replaced that is set here. -/
def apply (overrides : Overrides) (settings : Settings) : Settings where
  server :=
    { settings.server with
      baseUrl := overrides.baseUrl.getD settings.server.baseUrl
      logTag := overrides.logTag.getD settings.server.logTag }
  stream := settings.stream
  display :=
    { settings.display with
      debug := overrides.debug || settings.display.debug
      detailsOpen := !overrides.summary && settings.display.detailsOpen }

end Overrides
end SyncWatch
