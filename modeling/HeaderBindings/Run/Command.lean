import HeaderBindings.Run.Generation

/-!
# The command

What the command line asks for, and what a run of it does.
-/

namespace HeaderBindings

/-- What a run is asked to do. -/
structure Command where
  settingsPath : Path := ⟨"napigen.toml"⟩
  /-- Definitions besides those of the settings. -/
  definitions : List String := []
  skipsManaged : Bool := false
  deriving Repr, DecidableEq

/-- What the command line asks for. -/
inductive Invocation where
  | run (command : Command)
  | help
  | version
  deriving Repr, DecidableEq

/-- Why a command line is refused. -/
inductive UsageError where
  | unknownOption (argument : String)
  | valueMissing (option : String)
  | valueUnexpected (option : String)
  | repeated (option : String)
  | unexpectedArgument (argument : String)
  | emptyPath
  deriving Repr, DecidableEq

/-- The wording of a usage error. -/
def UsageError.message : UsageError → String
  | .unknownOption argument => s!"unexpected argument '{argument}' found"
  | .valueMissing option => s!"a value is required for '{option}' but none was supplied"
  | .valueUnexpected option => s!"unexpected value for '{option}' found; no more were expected"
  | .repeated option => s!"the argument '{option}' cannot be used multiple times"
  | .unexpectedArgument argument => s!"unexpected argument '{argument}' found"
  | .emptyPath => "a value is required for '[CONFIG]' but none was supplied"

/-- The exit code of a refused command line. -/
def UsageError.exitCode : Nat := 2

/-- What one argument means, before the arguments that end the options. -/
inductive Option_ where
  | endOfOptions
  | define
  | defineAs (name : String)
  | skipManaged
  | skipManagedAs (value : String)
  | help
  | version
  | unknown
  | path
  deriving Repr, DecidableEq

/-- A value that is attached to a short option; a sign of equality in front does not count. -/
def attachedValue (text : List Char) : String :=
  .ofList (match text with
    | '=' :: rest => rest
    | rest => rest)

/-- Reads the meaning of an argument. -/
def Option_.ofText (argument : String) : Option_ :=
  if argument == "--" then .endOfOptions
  else if argument == "-D" || argument == "--define" then .define
  else if argument == "--skip-csharp" then .skipManaged
  else if argument == "--help" then .help
  else if argument == "--version" then .version
  else
    match Text.dropHead? argument "--define=", Text.dropHead? argument "--skip-csharp=" with
    | some name, _ => .defineAs name
    | none, some value => .skipManagedAs value
    | none, none =>
      match argument.toList with
      | '-' :: '-' :: _ => .unknown
      | '-' :: 'D' :: rest => .defineAs (attachedValue rest)
      | '-' :: 'h' :: _ => .help
      | '-' :: 'V' :: _ => .version
      | '-' :: _ :: _ => .unknown
      | _ => .path

/-- A command line that is being read. -/
structure CommandDraft where
  settingsPath : Option Path := none
  definitions : List String := []
  skipsManaged : Bool := false
  deriving Repr, DecidableEq

/-- The command of a complete command line. -/
def CommandDraft.command (draft : CommandDraft) : Command :=
  { settingsPath := draft.settingsPath.getD ⟨"napigen.toml"⟩
    definitions := draft.definitions
    skipsManaged := draft.skipsManaged }

/-- Adds the path of the settings, of which there is one at most. -/
def CommandDraft.addPath (draft : CommandDraft) (text : String) :
    Except UsageError CommandDraft :=
  if draft.settingsPath.isSome then .error (.unexpectedArgument text)
  else if text.isEmpty then .error .emptyPath
  else .ok { draft with settingsPath := some ⟨text⟩ }

/-- Adds a definition. -/
def CommandDraft.addDefinition (draft : CommandDraft) (name : String) : CommandDraft :=
  { draft with definitions := draft.definitions ++ [name] }

/-- Reads the arguments after the end of the options. -/
def readPaths (draft : CommandDraft) : List String → Except UsageError Invocation
  | [] => .ok (.run draft.command)
  | argument :: rest => do readPaths (← draft.addPath argument) rest

/-- Reads arguments from left to right; the first fault, or the first question, decides. -/
def readArguments (draft : CommandDraft) : List String → Except UsageError Invocation
  | [] => .ok (.run draft.command)
  | argument :: rest =>
    match Option_.ofText argument with
    | .endOfOptions => readPaths draft rest
    | .define =>
      match rest with
      | [] => .error (.valueMissing argument)
      | value :: rest =>
        match Option_.ofText value with
        | .path => readArguments (draft.addDefinition value) rest
        | _ => .error (.valueMissing argument)
    | .defineAs name => readArguments (draft.addDefinition name) rest
    | .skipManaged =>
      if draft.skipsManaged then .error (.repeated argument)
      else readArguments { draft with skipsManaged := true } rest
    | .skipManagedAs _ => .error (.valueUnexpected "--skip-csharp")
    | .help => .ok .help
    | .version => .ok .version
    | .unknown => .error (.unknownOption argument)
    | .path => do readArguments (← draft.addPath argument) rest

/-- Reads a command line. -/
def Invocation.ofArguments (arguments : List String) : Except UsageError Invocation :=
  readArguments {} arguments

/-- The answer to a question for the version. -/
def versionText : String := "napigen 0.1.0\n"

/-- The answer to a question for help. -/
def helpText : String :=
  "napigen — generate native API wrappers from annotated GDExtension headers\n\n" ++
  "Usage: napigen [OPTIONS] [CONFIG]\n\n" ++
  "Arguments:\n" ++
  "  [CONFIG]  Path to the napigen.toml configuration file [default: napigen.toml]\n\n" ++
  "Options:\n" ++
  "  -D, --define <NAME>  Extra global preprocessor define (repeatable)\n" ++
  "      --skip-csharp    Do not generate the C# wrapper even when configured\n" ++
  "  -h, --help           Print help\n" ++
  "  -V, --version        Print version\n"

/-- The settings of a command: those that were loaded, with its own definitions after theirs. -/
def Command.adjust (command : Command) (settings : Settings) : Settings :=
  { settings with
    definitions := settings.definitions ++ command.definitions
    managed := if command.skipsManaged then none else settings.managed }

/-- How a run fails. -/
inductive RunError where
  | load (path : Path) (error : LoadError)
  | generation (error : GenerationError)
  deriving Repr, DecidableEq

/-- The wording of the failure of a run, if it has one. -/
def RunError.message? (detail : String) : RunError → Option String
  | .load path error =>
    let path := path.text
    some (Stage.activity .settings ++ s!": loading config from {path}: " ++ error.message detail)
  | .generation error => error.message? detail

/-- The outcome of a run. -/
structure RunOutcome where
  exitCode : Nat
  /-- The generated source to be built with the plugin, from the source folder. -/
  sources : List Path
  notices : List Notice
  error : Option RunError

/-- The outcome of a generation as that of a run. -/
def RunOutcome.ofReport (report : Report) : RunOutcome :=
  match report.result with
  | .ok generated =>
    { exitCode := 0, sources := [generated.exportsSource], notices := report.notices, error := none }
  | .error error =>
    { exitCode := error.exitCode, sources := [], notices := report.notices
      error := some (.generation error) }

/-- A list of sources to be built, with that of a run at its end. -/
def RunOutcome.addTo (outcome : RunOutcome) (sources : List Path) : List Path :=
  sources ++ outcome.sources

/-- Runs a command. -/
def Command.run {m : Type → Type} [Monad m] [MonadFiles m] (command : Command) : m RunOutcome := do
  let path := command.settingsPath
  match ← loadSettings path with
  | .error error =>
    pure { exitCode := Stage.exitCode .settings, sources := [], notices := []
           error := some (.load path error) }
  | .ok settings => do
    pure (.ofReport (← generate (command.adjust settings) (settingsBase path)))

end HeaderBindings
