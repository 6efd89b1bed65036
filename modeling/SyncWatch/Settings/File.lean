import SyncWatch.Settings.Validity
import SyncWatch.Yaml.Document

/-!
# Settings in a file

A file with settings is a document of sections with fields.  Everything that it
leaves out keeps its standard value.
-/

namespace SyncWatch

open Yaml

/-- Read the section of the server. -/
def ServerSettings.reader : ValueReader ServerSettings :=
  readRecord "struct ServerConfig"
    [Field.of "base_url" (readText "a string") fun server baseUrl => { server with baseUrl },
      Field.of "log_tag" (readText "a string") fun server logTag => { server with logTag },
      Field.of "request_timeout_secs" (readNat "u64") fun server requestTimeoutSeconds =>
        { server with requestTimeoutSeconds }]
    {}

/-- Read the section of the feeds. -/
def StreamSettings.reader : ValueReader StreamSettings :=
  readRecord "struct StreamConfig"
    [Field.of "initial_retry_ms" (readNat "u64") fun stream initialRetryMillis =>
        { stream with initialRetryMillis },
      Field.of "max_retry_ms" (readNat "u64") fun stream longestRetryMillis =>
        { stream with longestRetryMillis },
      Field.of "staleness_secs" (readNat "u64") fun stream stalenessSeconds =>
        { stream with stalenessSeconds }]
    {}

/-- Read the section of the display. -/
def DisplaySettings.reader : ValueReader DisplaySettings :=
  readRecord "struct DisplayConfig"
    [Field.of "debug" readFlag fun display debug => { display with debug },
      Field.of "details_open" readFlag fun display detailsOpen => { display with detailsOpen },
      Field.of "scroll_tolerance" (readNat "usize") fun display scrollTolerance =>
        { display with scrollTolerance },
      Field.of "buffer_capacity" (readNat "usize") fun display bufferCapacity =>
        { display with bufferCapacity }]
    {}

namespace Settings

/-- Read the sections. -/
def reader : ValueReader Settings :=
  readRecord "struct MonitorConfig"
    [Field.of "server" ServerSettings.reader fun settings server => { settings with server },
      Field.of "stream" StreamSettings.reader fun settings stream => { settings with stream },
      Field.of "display" DisplaySettings.reader fun settings display => { settings with display }]
    {}

/-- The settings that a text holds, whether they can be used or not. -/
def decode (text : String) : Except DocumentError Settings :=
  readDocument text.toList {} reader

/-- The usable settings that the text of a file at a path holds.  A blank text
holds the standard ones. -/
def parse (path text : String) : Except MonitorError Settings :=
  if Text.isBlankText text then .ok {}
  else
    match decode text with
    | .ok settings => settings.validated
    | .error error => .error (.configInvalid path error.message)

/-- The path that stands in errors about a text that is in no file. -/
def inlinePath : String := "<inline>"

end Settings
end SyncWatch
