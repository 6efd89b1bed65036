import SyncWatch.Home
import SyncWatch.Settings.File

/-!
# Where settings come from

The settings lie in a file that the command line names, or else in a file in
the home directory, which need not exist.
-/

namespace SyncWatch

/-- What came of reading a file. -/
inductive FileReading where
  | absent
  /-- The path leads through something that is not a directory. -/
  | blocked
  /-- The file cannot be read, for a cause that the system gives. -/
  | unreadable (cause : String)
  | content (text : String)
  deriving DecidableEq, Repr

namespace FileReading

/-- What the system says about a file that does not exist. -/
def absentCause : String := "No such file or directory (os error 2)"

/-- What the system says about a path through something that is not a directory. -/
def blockedCause : String := "Not a directory (os error 20)"

/-- What the system says about a directory in place of a file. -/
def directoryCause : String := "Is a directory (os error 21)"

/-- The reading of a file with given bytes, which have to encode a text. -/
def ofBytes (bytes : ByteArray) : FileReading :=
  match String.fromUTF8? bytes with
  | some text => .content text
  | none => .unreadable "stream did not contain valid UTF-8"

end FileReading

namespace Settings

/-- The settings of a file that has to exist. -/
def ofFile (path : String) : FileReading → Except MonitorError Settings
  | .absent => .error (.configNotFound path (some FileReading.absentCause))
  | .blocked => .error (.file "reading config" path FileReading.blockedCause)
  | .unreadable cause => .error (.file "reading config" path cause)
  | .content text => parse path text

/-- The settings of the file in the home directory, or the standard ones. -/
def ofHome (path : String) : FileReading → Except MonitorError Settings
  | .absent | .blocked => .ok {}
  | reading => ofFile path reading

end Settings
end SyncWatch
