import SyncWatch.Failure
import SyncWatch.Text.Search

/-!
# Places in the home directory

The settings and the diagnostic log lie in one directory below the home
directory of the user.
-/

namespace SyncWatch
namespace Home

/-- The path of an entry below a directory.  An entry that names a place of its
own, from the root on, stays as it is. -/
def entry (directory name : String) : String :=
  if Text.startsWith name "/" || directory.isEmpty then name
  else if Text.endsWith directory "/" then directory ++ name
  else directory ++ "/" ++ name

/-- The directory of this program. -/
def directory (home : String) : String :=
  entry home ".cwmon"

/-- The file with the settings. -/
def settingsFile (home : String) : String :=
  entry (directory home) "config.yaml"

/-- The directory of the diagnostic log, which needs a home directory. -/
def logDirectory (home : Option String) : Except MonitorError String :=
  match home with
  | some home => .ok (entry (directory home) "logs")
  | none => .error (.internal "HOME environment variable not set")

/-- The file of the diagnostic log. -/
def logFile (home : Option String) : Except MonitorError String :=
  (logDirectory home).map fun place => entry place "cwmon.log"

/-- Which diagnostics are written: everything, or all but the details. -/
def directive (detailed : Bool) : String :=
  let level := if detailed then "debug" else "info"
  "cwmon=" ++ level ++ ",cwmon_stream=" ++ level ++ ",cwmon_tui=" ++ level

end Home
end SyncWatch
