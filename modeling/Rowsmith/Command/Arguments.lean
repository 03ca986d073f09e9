/-
The arguments of the command line. Options come before or after the name
of a command, each where it belongs; what follows the name belongs to the
command. An option with a value takes it from the same argument or from
the next one.

An option may be given once. One that waits for its value is settled when
the next option is read or the arguments end; whatever is wrong with it is
noticed then, and not before. An argument that does not belong anywhere is
noticed at once.
-/

namespace Rowsmith.Command

/-- Why arguments are not accepted, or what they ask for instead of a
command. -/
inductive UsageError
  | helpShown
  | versionShown
  -- There are no arguments to speak of.
  | nothingGiven
  | commandMissing
  | commandUnknown
  | argumentUnknown
  | valueInvalid
  -- An option is given twice.
  | optionRepeated
  -- A value is given to an option that takes none.
  | valueSurplus
deriving DecidableEq, Repr

/-- The options. -/
inductive Flag
  | verbose
  | help
  | version
  | settings
  | dryRun
deriving DecidableEq, Repr

namespace Flag

def long : Flag → String
  | .verbose => "verbose"
  | .help => "help"
  | .version => "version"
  | .settings => "config"
  | .dryRun => "dry-run"

def short? : Flag → Option Char
  | .verbose => some 'v'
  | .help => some 'h'
  | .version => some 'V'
  | .settings => some 'c'
  | .dryRun => none

def takesValue : Flag → Bool
  | .settings => true
  | _ => false

end Flag

/-- The names of commands. -/
inductive Name
  | generate
  | check
deriving DecidableEq, Repr

def Name.ofText? : String → Option Name
  | "generate" => some .generate
  | "check" => some .check
  | _ => none

/-- A part of the command line: what comes before the name of a command,
or what follows it. -/
inductive Scope
  | before
  | after (name : Name)
deriving DecidableEq, Repr

def Scope.flags : Scope → List Flag
  | .before => [.verbose, .help, .version]
  | .after .generate => [.settings, .dryRun, .verbose, .help]
  | .after .check => [.settings, .verbose, .help]

/-- What has been read of a part. -/
structure Reading where
  scope : Scope
  -- The options that are settled, with their values.
  given : List (Flag × String)
  -- An option that waits to be settled, with its value if it was read. If
  -- it was not, the next argument may be the value.
  waiting : Option (Flag × Option String)
  -- Two dashes alone were read; no options follow.
  isClosed : Bool
deriving DecidableEq, Repr

namespace Reading

def start (scope : Scope) : Reading := ⟨scope, [], none, false⟩

def has (r : Reading) (flag : Flag) : Bool := r.given.any fun entry => entry.1 == flag

def value? (r : Reading) (flag : Flag) : Option String :=
  (r.given.find? fun entry => entry.1 == flag).map (·.2)

/-- Notes an option with its value, which is empty if it takes none. -/
def give (r : Reading) (flag : Flag) (value : String) : Except UsageError Reading :=
  if r.has flag then .error .optionRepeated
  else if flag.takesValue && value.isEmpty then .error .valueInvalid
  else .ok { r with given := r.given ++ [(flag, value)] }

/-- Settles the option that waits. -/
def settle (r : Reading) : Except UsageError Reading :=
  match r.waiting with
  | none => .ok r
  | some (_, none) => .error .valueInvalid
  | some (flag, some value) => { r with waiting := none }.give flag value

/-- Reads an option without a value. -/
def giveFlag (r : Reading) (flag : Flag) : Except UsageError Reading := do
  let r ← r.settle
  match flag with
  | .help => throw .helpShown
  | .version => throw .versionShown
  | flag => r.give flag ""

/-- Reads an option with a value, which may stand in the next argument. -/
def giveOption (r : Reading) (flag : Flag) (value : Option String) : Except UsageError Reading := do
  let r ← r.settle
  match value with
  | some value => r.give flag value
  | none => return { r with waiting := some (flag, none) }

/-- Reads a name behind two dashes, with what follows its equals sign. -/
def readLong (r : Reading) (name : String) (value : Option String) :
    Except UsageError Reading := do
  match r.scope.flags.find? fun flag => flag.long == name with
  | none => throw .argumentUnknown
  | some flag =>
    if flag.takesValue then r.giveOption flag value
    else if value.isSome then throw .valueSurplus
    else r.giveFlag flag

/-- Reads letters behind one dash. What follows the letter of an option
that takes a value is the value, with or without an equals sign. -/
def readLetters (r : Reading) : List Char → Except UsageError Reading
  | [] => .ok r
  | c :: rest => do
    match r.scope.flags.find? fun flag => flag.short? == some c with
    | none => throw .argumentUnknown
    | some flag =>
      if flag.takesValue then
        match rest with
        | [] => r.giveOption flag none
        | '=' :: value => r.giveOption flag (some (String.ofList value))
        | value => r.giveOption flag (some (String.ofList value))
      else readLetters (← r.giveFlag flag) rest

/-- What an argument that is neither option nor value means: it is no
command if one is expected, and it belongs nowhere behind a command. -/
def stray (r : Reading) (argument : String) : UsageError :=
  match r.scope with
  | .before =>
    if r.isClosed && ((Name.ofText? argument).isSome || argument == "help") then .argumentUnknown
    else .commandUnknown
  | .after _ => .argumentUnknown

/-- A name and what follows its equals sign. -/
def splitAtEquals (chars : List Char) : String × Option String :=
  match chars.dropWhile (· != '=') with
  | [] => (String.ofList chars, none)
  | _ :: value => (String.ofList (chars.takeWhile (· != '=')), some (String.ofList value))

/-- Reads an argument that is not the name of a command. -/
def read (r : Reading) (argument : String) : Except UsageError Reading :=
  let asValue : Except UsageError Reading :=
    match r.waiting with
    | some (flag, none) => .ok { r with waiting := some (flag, some argument) }
    | _ => .error (r.stray argument)
  if r.isClosed then .error (r.stray argument)
  else
    match argument.toList with
    | ['-', '-'] => .ok { r with isClosed := true }
    | '-' :: '-' :: chars =>
      let (name, value) := splitAtEquals chars
      r.readLong name value
    | ['-'] => asValue
    | '-' :: letters => r.readLetters letters
    | _ => asValue

/-- Reads the arguments behind the name of a command. -/
def readAll (r : Reading) : List String → Except UsageError Reading
  | [] => r.settle
  | argument :: rest => do readAll (← r.read argument) rest

end Reading

-- ============================================================== commands

/-- What a command does. -/
inductive Task
  | check
  | generate (isDryRun : Bool)
deriving DecidableEq, Repr

/-- A command line that was accepted. -/
structure Invocation where
  -- Every step is to be logged.
  isVerbose : Bool
  task : Task
  -- The file with the settings.
  settingsPath : String
deriving DecidableEq, Repr

/-- The file with the settings if none is given. -/
def defaultSettingsPath : String := "archgen.toml"

/-- The request for help on what the arguments name. -/
def helpOn : List String → UsageError
  | [] => .helpShown
  | [name] => if (Name.ofText? name).isSome || name == "help" then .helpShown else .commandUnknown
  | _ => .commandUnknown

/-- The command line that two parts make up. -/
def Invocation.ofReadings (name : Name) (before after : Reading) : Invocation where
  isVerbose := before.has .verbose || after.has .verbose
  task := match name with
    | .check => .check
    | .generate => .generate (after.has .dryRun)
  settingsPath := (after.value? .settings).getD defaultSettingsPath

/-- Reads arguments up to the name of a command, and the rest by it. -/
def readArguments (r : Reading) : List String → Except UsageError Invocation
  | [] => .error (if r.given.isEmpty then .nothingGiven else .commandMissing)
  | argument :: rest => do
    if !r.isClosed then
      if argument == "help" then throw (helpOn rest)
      if let some name := Name.ofText? argument then
        return .ofReadings name r (← (Reading.start (.after name)).readAll rest)
    readArguments (← r.read argument) rest

/-- The command line that arguments make up. -/
def Invocation.ofArguments (arguments : List String) : Except UsageError Invocation :=
  readArguments (.start .before) arguments

end Rowsmith.Command
