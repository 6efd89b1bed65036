import SyncWatch.Settings.Basic

/-!
# Options of the command line

Options are flags, which stand alone, and options with a value, which follows
as the next argument or in the same one.  Apart from the flag for more
diagnostics, none may be given twice.  Reading stops at the first flag that
asks for help or for the version, and at the first fault.
-/

namespace SyncWatch
namespace CommandLine

/-- An option that stands alone. -/
inductive Flag where
  /-- Write more diagnostics. -/
  | verbose
  /-- Show lines as they were sent. -/
  | debug
  /-- Begin with the details hidden. -/
  | summary
  | help
  | version
  deriving DecidableEq, Repr

namespace Flag

/-- The flag with a name. -/
def ofName? : String → Option Flag
  | "verbose" => some .verbose
  | "debug" => some .debug
  | "summary" => some .summary
  | "help" => some .help
  | "version" => some .version
  | _ => none

/-- The flag with a letter. -/
def ofLetter? : Char → Option Flag
  | 'v' => some .verbose
  | 'h' => some .help
  | 'V' => some .version
  | _ => none

/-- How a flag is written in full. -/
def spelling : Flag → String
  | .verbose => "--verbose..."
  | .debug => "--debug"
  | .summary => "--summary"
  | .help => "--help"
  | .version => "--version"

end Flag

/-- An option that takes a value. -/
inductive ValueOption where
  | logDirectory
  | configFile
  | url
  | tag
  deriving DecidableEq, Repr

namespace ValueOption

/-- The option with a name. -/
def ofName? : String → Option ValueOption
  | "log-dir" => some .logDirectory
  | "config" => some .configFile
  | "url" => some .url
  | "tag" => some .tag
  | _ => none

/-- The option with a letter. -/
def ofLetter? : Char → Option ValueOption
  | 'c' => some .configFile
  | _ => none

/-- How an option is written in full. -/
def spelling : ValueOption → String
  | .logDirectory => "--log-dir <LOG_DIR>"
  | .configFile => "--config <CONFIG>"
  | .url => "--url <URL>"
  | .tag => "--tag <TAG>"

/-- Whether the value is a path, which cannot be empty. -/
def isPath : ValueOption → Bool
  | .logDirectory | .configFile => true
  | .url | .tag => false

end ValueOption

/-- What the arguments ask for. -/
structure Options where
  /-- How often more diagnostics were asked for. -/
  verbosity : Nat := 0
  logDirectory : Option String := none
  configFile : Option String := none
  overrides : Overrides := {}
  deriving DecidableEq, Repr

/-- What is wrong with arguments. -/
inductive UsageError where
  /-- An argument that is no option. -/
  | unexpected (argument : String)
  | missingValue (option : ValueOption)
  /-- A flag with a value. -/
  | needlessValue (flag : Flag) (value : String)
  /-- An option that was given before. -/
  | repeated (spelling : String)
  deriving DecidableEq, Repr

/-- Why reading the arguments stops. -/
inductive Halt where
  | usage (error : UsageError)
  /-- Help is asked for, in full or in brief. -/
  | help (full : Bool)
  | version
  deriving DecidableEq, Repr

namespace Options

/-- The value that an option has. -/
def value? (options : Options) : ValueOption → Option String
  | .logDirectory => options.logDirectory
  | .configFile => options.configFile
  | .url => options.overrides.baseUrl
  | .tag => options.overrides.logTag

/-- The options with another value for one of them. -/
def withValue (options : Options) (value : String) : ValueOption → Options
  | .logDirectory => { options with logDirectory := some value }
  | .configFile => { options with configFile := some value }
  | .url => { options with overrides := { options.overrides with baseUrl := some value } }
  | .tag => { options with overrides := { options.overrides with logTag := some value } }

/-- Take up an option with its value. -/
def take (options : Options) (option : ValueOption) (value : String) : Except Halt Options :=
  if (options.value? option).isSome then .error (.usage (.repeated option.spelling))
  else if option.isPath && value.isEmpty then .error (.usage (.missingValue option))
  else .ok (options.withValue value option)

/-- Take up a flag, which is written in full or as a letter. -/
def raise (options : Options) (full : Bool) (flag : Flag) : Except Halt Options :=
  match flag with
  | .verbose => .ok { options with verbosity := options.verbosity + 1 }
  | .debug =>
    if options.overrides.debug then .error (.usage (.repeated flag.spelling))
    else .ok { options with overrides := { options.overrides with debug := true } }
  | .summary =>
    if options.overrides.summary then .error (.usage (.repeated flag.spelling))
    else .ok { options with overrides := { options.overrides with summary := true } }
  | .help => .error (.help full)
  | .version => .error .version

end Options

/-- The form of an argument. -/
inductive Argument where
  /-- The mark behind which there are no more options. -/
  | endOfOptions
  /-- An option in full, perhaps with a value. -/
  | named (name : String) (value : Option String)
  /-- Options as letters, of which the last one perhaps has a value. -/
  | letters (letters : List Char)
  | plain (text : String)
  deriving DecidableEq, Repr

/-- The form of an argument. -/
def Argument.ofText (text : String) : Argument :=
  match text.toList with
  | ['-', '-'] => .endOfOptions
  | '-' :: '-' :: chars =>
    let value :=
      match chars.dropWhile (· != '=') with
      | _ :: value => some (String.ofList value)
      | [] => none
    .named (String.ofList (chars.takeWhile (· != '='))) value
  | '-' :: letter :: chars => .letters (letter :: chars)
  | _ => .plain text

/-- How far arguments were read. -/
structure Reading where
  options : Options := {}
  /-- The option of which the value is still to come. -/
  pending : Option ValueOption := none
  deriving DecidableEq, Repr

namespace Reading

/-- The options, unless the value of one is missing. -/
def settled (reading : Reading) : Except Halt Options :=
  match reading.pending with
  | some option => .error (.usage (.missingValue option))
  | none => .ok reading.options

/-- Read an option in full. -/
def named (reading : Reading) (text name : String) (value : Option String) :
    Except Halt Reading :=
  match Flag.ofName? name, ValueOption.ofName? name, value with
  | some flag, _, some value => .error (.usage (.needlessValue flag value))
  | some flag, _, none => do
    return { options := ← (← reading.settled).raise true flag }
  | none, some option, some value => do
    return { options := ← (← reading.settled).take option value }
  | none, some option, none => do
    return { options := ← reading.settled, pending := some option }
  | none, none, _ => .error (.usage (.unexpected text))

/-- Read options that are letters of one argument. -/
def letters (reading : Reading) : List Char → Except Halt Reading
  | [] => .ok reading
  | letter :: rest =>
    match Flag.ofLetter? letter, ValueOption.ofLetter? letter with
    | some flag, _ => do
      let options ← (← reading.settled).raise false flag
      Reading.letters { options } rest
    | none, some option => do
      let options ← reading.settled
      match rest with
      | [] => return { options, pending := some option }
      | '=' :: value => return { options := ← options.take option (String.ofList value) }
      | value => return { options := ← options.take option (String.ofList value) }
    | none, none => .error (.usage (.unexpected (String.ofList ['-', letter])))

/-- Read a text that is no option. -/
def plain (reading : Reading) (text : String) : Except Halt Reading :=
  match reading.pending with
  | some option => do
    return { options := ← reading.options.take option text }
  | none => .error (.usage (.unexpected text))

/-- Read the arguments that are left. -/
def finish (reading : Reading) : List String → Except Halt Options
  | [] => reading.settled
  | argument :: rest =>
    match Argument.ofText argument with
    | .endOfOptions =>
      match rest with
      | [] => reading.settled
      | extra :: _ => .error (.usage (.unexpected extra))
    | .named name value => do
      (← reading.named argument name value).finish rest
    | .letters letters => do
      (← reading.letters letters).finish rest
    | .plain text => do
      (← reading.plain text).finish rest

end Reading

/-- The options that arguments ask for. -/
def parse (arguments : List String) : Except Halt Options :=
  ({} : Reading).finish arguments

@[simp] theorem parse_nil : parse [] = .ok {} := rfl

end CommandLine
end SyncWatch
