import SyncWatch.CommandLine.Help
import SyncWatch.Dashboard.View
import SyncWatch.Settings.Load

/-!
# What the program does

The program prepares its diagnostic log, loads the settings, and shows the
dashboard.  What it needs from its surroundings is a record of actions, so that
it can be run on any file system and on any terminal.
-/

namespace SyncWatch

/-- The settings that hold when a command line sets some of them, if they can
be used. -/
def Overrides.effective (overrides : Overrides) (settings : Settings) :
    Except MonitorError Settings :=
  (overrides.apply settings).validated

namespace CommandLine

/-- What the program needs from its surroundings. -/
structure Host (m : Type → Type) where
  /-- The home directory of the user, if there is one. -/
  home : m (Option String)
  /-- Read a file. -/
  readFile : String → m FileReading
  /-- Make a directory with all above it, or give the cause why not. -/
  makeDirectory : String → m (Option String)
  /-- Show a dashboard with closed feeds until it is left, or give the failure that
  ended it. -/
  showDashboard : Dashboard → m (Option MonitorError)

/-- How a run of the program ends. -/
inductive Outcome where
  /-- The arguments ask for a text or are wrong. -/
  | halted (halt : Halt)
  /-- There is no place for the diagnostic log. -/
  | noLog (error : MonitorError)
  /-- There are no usable settings. -/
  | noSettings (error : MonitorError)
  /-- The dashboard failed. -/
  | noDashboard (error : MonitorError)
  /-- The dashboard was left. -/
  | finished
  deriving DecidableEq, Repr

namespace Outcome

/-- The exit code of the program. -/
def exitCode : Outcome → Nat
  | .halted (.usage _) | .noSettings _ => 2
  | .noLog _ | .noDashboard _ => 1
  | .halted (.help _) | .halted .version | .finished => 0

/-- What the program writes to its output. -/
def output : Outcome → String
  | .halted (.help full) => helpText full
  | .halted .version => versionText
  | _ => ""

/-- What the program writes about failures. -/
def errorOutput : Outcome → String
  | .halted (.usage error) => error.report
  | .noLog error => "Failed to initialize logging: " ++ error.message ++ "\n"
  | .noSettings error | .noDashboard error => error.report
  | _ => ""

end Outcome

variable {m : Type → Type} [Monad m]

/-- Make the directory of the diagnostic log. -/
def prepareLog (host : Host m) (options : Options) : m (Except MonitorError Unit) := do
  let home ← host.home
  match (options.logDirectory.map .ok).getD (Home.logDirectory home) with
  | .error error => return .error error
  | .ok directory =>
    match ← host.makeDirectory directory with
    | some cause => return .error (.directoryCreation directory cause)
    | none => return .ok ()

/-- The settings of the file that the options name or that lies in the home
directory. -/
def loadFile (host : Host m) (options : Options) : m (Except MonitorError Settings) := do
  match options.configFile, (← host.home).filter (· ≠ "") with
  | some path, _ => return Settings.ofFile path (← host.readFile path)
  | none, some home =>
    let path := Home.settingsFile home
    return Settings.ofHome path (← host.readFile path)
  | none, none => return .ok {}

/-- The settings of the program: those of the file, with everything replaced
that the command line sets. -/
def loadSettings (host : Host m) (options : Options) : m (Except MonitorError Settings) := do
  return (← loadFile host options).bind options.overrides.effective

/-- Run the program. -/
def run (host : Host m) (arguments : List String) : m Outcome := do
  match parse arguments with
  | .error halt => return .halted halt
  | .ok options =>
    match ← prepareLog host options with
    | .error error => return .noLog error
    | .ok () =>
      match ← loadSettings host options with
      | .error error => return .noSettings error
      | .ok settings =>
        match ← host.showDashboard (Dashboard.new settings) with
        | some error => return .noDashboard error
        | none => return .finished

end CommandLine
end SyncWatch
