import SyncWatch.CommandLine.Options

/-!
# Texts about the command line

The help, in full and in brief, the version, and what is said about wrong
arguments.
-/

namespace SyncWatch
namespace CommandLine

/-- The name and the version of the program. -/
def versionText : String :=
  "cwmon 0.1.0\n"

/-- How the program is called. -/
def usageText : String :=
  "Usage: cwmon [OPTIONS]\n"

/-- An option as help shows it: how it is written, and what it does. -/
structure OptionHelp where
  spelling : String
  description : String
  deriving DecidableEq, Repr

/-- All options. -/
def optionHelp (full : Bool) : List OptionHelp :=
  [⟨"-v, --verbose...", "Enable verbose logging (increases log level)"⟩,
    ⟨"    --log-dir <LOG_DIR>", "Directory for log files (defaults to ~/.cwmon/logs/)"⟩,
    ⟨"-c, --config <CONFIG>", "Config file (defaults to ~/.cwmon/config.yaml)"⟩,
    ⟨"    --url <URL>", "Server base URL, e.g. http://localhost:8787"⟩,
    ⟨"    --tag <TAG>", "Log channel for the verbose feed"⟩,
    ⟨"    --debug", "Show raw lines instead of formatted ones"⟩,
    ⟨"    --summary", "Start with details closed (compact summary feed)"⟩,
    ⟨"-h, --help",
      if full then "Print help (see a summary with '-h')"
      else "Print help (see more with '--help')"⟩,
    ⟨"-V, --version", "Print version"⟩]

/-- The help, in full or in brief. -/
def helpText (full : Bool) : String :=
  let rows := optionHelp full
  let width := (rows.map (·.spelling.length)).foldl max 0
  let line (row : OptionHelp) : String :=
    if full then "  " ++ row.spelling ++ "\n          " ++ row.description ++ "\n"
    else
      let gap := String.ofList (List.replicate (width + 2 - row.spelling.length) ' ')
      "  " ++ row.spelling ++ gap ++ row.description ++ "\n"
  let about :=
    if full then
      "\n\nFollows the server's verbose sync log and structured run summary over " ++
        "Server-Sent Events and shows the run's progress live."
    else ""
  "CrossWatch sync-run monitor" ++ about ++ "\n\n" ++ usageText ++ "\nOptions:\n" ++
    String.intercalate (if full then "\n" else "") (rows.map line)

namespace UsageError

/-- What is wrong, in one line. -/
def message : UsageError → String
  | .unexpected argument => "unexpected argument '" ++ argument ++ "' found"
  | .missingValue option =>
    "a value is required for '" ++ option.spelling ++ "' but none was supplied"
  | .needlessValue flag value =>
    "unexpected value '" ++ value ++ "' for '" ++ flag.spelling ++
      "' found; no more were expected"
  | .repeated spelling => "the argument '" ++ spelling ++ "' cannot be used multiple times"

/-- The error as it is reported, with how the program is called. -/
def report (error : UsageError) : String :=
  "error: " ++ error.message ++ "\n\n" ++ usageText ++ "\nFor more information, try '--help'.\n"

end UsageError
end CommandLine
end SyncWatch
