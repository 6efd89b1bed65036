import SyncWatch.Feed.Coordinator
import SyncWatch.Settings.Validity
import SyncWatch.Text.LetterCase

/-!
# The feeds that the settings describe

The addresses of the two feeds, and how the feeds connect.
-/

namespace SyncWatch

open Feed

/-- A text without the slashes at its end. -/
def dropSlashes (text : List Char) : List Char :=
  (text.reverse.dropWhile (· == '/')).reverse

namespace Settings

/-- The address of the server, to which a path can be appended. -/
def serverAddress (settings : Settings) : String :=
  String.ofList (dropSlashes settings.server.address.toList)

/-- The address of the log with the tag of the settings. -/
def verboseAddress (settings : Settings) : String :=
  settings.serverAddress ++ "/api/logs/stream?tag=" ++ Text.upper settings.server.tag

/-- The address of the summary of the run. -/
def summaryAddress (settings : Settings) : String :=
  settings.serverAddress ++ "/api/run/summary/stream"

/-- The addresses of the two feeds. -/
def endpoints (settings : Settings) : FeedEndpoints where
  verbose := settings.verboseAddress
  summary := settings.summaryAddress

/-- How delays grow. -/
def backoff (settings : Settings) : BackoffPolicy :=
  BackoffPolicy.ofMillis settings.stream.initialRetryMillis settings.stream.longestRetryMillis

/-- How the feeds connect; an answer is waited for at least one second. -/
def streamOptions (settings : Settings) : StreamOptions where
  backoff := settings.backoff
  staleness := Duration.ofSeconds settings.stream.stalenessSeconds
  connectTimeout := Duration.ofSeconds (max settings.server.requestTimeoutSeconds 1)

/-- Two closed feeds as the settings describe them. -/
def coordinator (settings : Settings) : Coordinator :=
  { Coordinator.new settings.endpoints settings.streamOptions with
    debug := settings.display.debug
    detailsOpen := settings.display.detailsOpen }

end Settings
end SyncWatch
