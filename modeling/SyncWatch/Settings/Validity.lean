import SyncWatch.Failure
import SyncWatch.Settings.Basic
import SyncWatch.Text.Blank
import SyncWatch.Text.Search

/-!
# Which settings can be used

A server address needs a scheme, a tag has to leave the address that it becomes
a part of intact, and delays and sizes have bounds.  The first fault counts.
-/

namespace SyncWatch

/-- Why settings cannot be used. -/
inductive SettingsFault where
  | addressMissing
  | addressScheme (address : String)
  | tagMissing
  | tagCharacters (tag : String)
  | initialRetryZero
  | retryBoundsInverted
  | stalenessZero
  | capacityZero
  deriving DecidableEq, Repr

/-- The message of a fault. -/
def SettingsFault.message : SettingsFault → String
  | .addressMissing => "server.base_url must not be empty"
  | .addressScheme address =>
    "server.base_url must start with http:// or https:// (got " ++ address ++ ")"
  | .tagMissing => "server.log_tag must not be empty"
  | .tagCharacters tag =>
    "server.log_tag may only contain letters, digits, '_' and '-' (got " ++ tag ++ ")"
  | .initialRetryZero => "stream.initial_retry_ms must be > 0"
  | .retryBoundsInverted => "stream.max_retry_ms must be >= stream.initial_retry_ms"
  | .stalenessZero => "stream.staleness_secs must be > 0"
  | .capacityZero => "display.buffer_capacity must be > 0"

/-- Whether a character may stand in a tag: ASCII letters, digits and two signs. -/
def isTagChar (char : Char) : Bool :=
  char.isAlphanum || char == '_' || char == '-'

/-- Whether an address names one of the two schemes. -/
def hasScheme (address : String) : Bool :=
  Text.startsWith address "http://" || Text.startsWith address "https://"

/-- Require a condition. -/
def require (condition : Bool) (fault : SettingsFault) : Except SettingsFault Unit :=
  if condition then .ok () else .error fault

namespace ServerSettings

/-- The address without white space around it. -/
def address (server : ServerSettings) : String :=
  Text.trimmed server.baseUrl

/-- The tag without white space around it. -/
def tag (server : ServerSettings) : String :=
  Text.trimmed server.logTag

/-- Check where the server is and which log is read. -/
def check (server : ServerSettings) : Except SettingsFault Unit := do
  require (!server.address.isEmpty) .addressMissing
  require (hasScheme server.address) (.addressScheme server.address)
  require (!server.tag.isEmpty) .tagMissing
  require (server.tag.toList.all isTagChar) (.tagCharacters server.tag)

end ServerSettings

/-- Check how the feeds connect again. -/
def StreamSettings.check (stream : StreamSettings) : Except SettingsFault Unit := do
  require (0 < stream.initialRetryMillis) .initialRetryZero
  require (stream.initialRetryMillis ≤ stream.longestRetryMillis) .retryBoundsInverted
  require (0 < stream.stalenessSeconds) .stalenessZero

/-- Check how the log is shown. -/
def DisplaySettings.check (display : DisplaySettings) : Except SettingsFault Unit :=
  require (0 < display.bufferCapacity) .capacityZero

namespace Settings

/-- Check the settings from the first to the last. -/
def check (settings : Settings) : Except SettingsFault Unit := do
  settings.server.check
  settings.stream.check
  settings.display.check

/-- The settings, if they can be used. -/
def validated (settings : Settings) : Except MonitorError Settings :=
  match settings.check with
  | .ok _ => .ok settings
  | .error fault => .error (.configValidation fault.message)

end Settings
end SyncWatch
