import SyncWatch.CommandLine.Program

/-!
# The command

The program on the files and the streams of the system.
-/

namespace SyncWatch
namespace CommandLine

/-- What the system says about a failure, with the number of the failure. -/
def systemText (code : UInt32) (details : String) : String :=
  details ++ " (os error " ++ toString code ++ ")"

/-- What a failure to read a file means. -/
def readingOfFailure : IO.Error → FileReading
  | .noFileOrDirectory _ _ _ => .absent
  | .inappropriateType (some _) _ _ => .blocked
  | .inappropriateType none code details => .unreadable (systemText code details)
  | .permissionDenied _ code details => .unreadable (systemText code details)
  | error => .unreadable (toString error)

/-- The files of the system.  Neither the keys of a terminal as they are pressed
nor connections to a server are among the actions of `IO`, so the dashboard ends
before it opens a feed, as it does where there is no terminal. -/
def systemHost : Host IO where
  home := IO.getEnv "HOME"
  readFile path := do
    match ← (IO.FS.readBinFile path).toBaseIO with
    | .ok bytes => return .ofBytes bytes
    | .error error => return readingOfFailure error
  makeDirectory path := do
    match ← (IO.FS.createDirAll path).toBaseIO with
    | .ok () => return none
    | .error error => return some (toString error)
  showDashboard _ :=
    return some (.terminalInit (systemText 6 "No such device or address"))

end CommandLine
end SyncWatch

/-- Run the program on the arguments and give its exit code. -/
def main (arguments : List String) : IO UInt32 := do
  let outcome ← SyncWatch.CommandLine.run SyncWatch.CommandLine.systemHost arguments
  IO.print outcome.output
  IO.eprint outcome.errorOutput
  return UInt32.ofNat outcome.exitCode
