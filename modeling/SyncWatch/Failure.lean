/-!
# Failures that reach the user

Failures of the configuration, of files and of the terminal.  A failure of a
feed is retried and never stops the program; it counts among these only when
it is reported on its own.
-/

namespace SyncWatch

/-- A failure that is reported to the user.  A cause is the text of the system
for the failure behind it. -/
inductive MonitorError where
  | configNotFound (path : String) (cause : Option String)
  | configInvalid (path message : String)
  | configValidation (message : String)
  | file (operation path cause : String)
  | directoryCreation (path cause : String)
  | httpClient (message : String)
  | invalidEndpoint (url message : String)
  | terminalInit (message : String)
  | terminalRestore (message : String)
  | internal (message : String)
  deriving DecidableEq, Repr

namespace MonitorError

/-- The message of a failure, without its cause. -/
def message : MonitorError → String
  | .configNotFound path _ => "Configuration not found at " ++ path
  | .configInvalid path message => "Invalid configuration at " ++ path ++ ": " ++ message
  | .configValidation message => "Configuration validation failed: " ++ message
  | .file operation path _ => "I/O error " ++ operation ++ ": " ++ path
  | .directoryCreation path _ => "Failed to create directory: " ++ path
  | .httpClient message => "Failed to build HTTP client: " ++ message
  | .invalidEndpoint url message => "Invalid endpoint URL " ++ url ++ ": " ++ message
  | .terminalInit message => "Terminal initialization failed: " ++ message
  | .terminalRestore message => "Failed to restore terminal: " ++ message
  | .internal message => "Internal error: " ++ message

/-- The cause of a failure, if it has one. -/
def cause : MonitorError → Option String
  | .configNotFound _ cause => cause
  | .file _ _ cause => some cause
  | .directoryCreation _ cause => some cause
  | _ => none

/-- The message of a failure with its cause. -/
def fullMessage (error : MonitorError) : String :=
  match error.cause with
  | some cause => error.message ++ ": " ++ cause
  | none => error.message

/-- Whether the configuration is at fault. -/
def isConfigError : MonitorError → Bool
  | .configNotFound _ _ | .configInvalid _ _ | .configValidation _ => true
  | _ => false

/-- What the user can do about a failure. -/
def guidance : MonitorError → Option String
  | .configNotFound _ _ =>
    some "Create ~/.cwmon/config.yaml or pass --url to point at the server"
  | .configInvalid _ _ => some "Check YAML syntax in ~/.cwmon/config.yaml"
  | .configValidation _ =>
    some ("Fix the reported field in ~/.cwmon/config.yaml " ++
      "or override it on the command line")
  | .invalidEndpoint _ _ => some "Use a base URL like http://localhost:8787"
  | .terminalInit _ => some "Run cwmon from an interactive terminal"
  | _ => none

/-- The error and, where there is one, the hint, as they are reported. -/
def report (error : MonitorError) : String :=
  let hint :=
    match error.guidance with
    | some guidance => "Hint: " ++ guidance ++ "\n"
    | none => ""
  "Error: " ++ error.fullMessage ++ "\n" ++ hint

end MonitorError
end SyncWatch
