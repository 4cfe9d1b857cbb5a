import AgentBus.CommandLine.Usage
import AgentBus.Config.Load
import AgentBus.Files.Basic
import AgentBus.Text.Visible

/-!
# Outcomes

What a request leads to. `perform` does what was asked for with the files that it is given access
to, and ends with an exit code and what is printed; only a session is left to whoever asked.
-/

namespace AgentBus.CommandLine

/-- What a run of the program leads to. -/
structure Outcome where
  code : UInt32 := 0
  output : Styled := []
  errors : Styled := []
  deriving DecidableEq

namespace Outcome

/-- A run that ends with an error, after it printed `report`. -/
def failed (message : String) (report : Styled := []) : Outcome :=
  { code := 1, errors := report ++ unlines ["Error: " ++ message] }

/-- A run that ends with an error of which the reason is told too. -/
def failedBy (message reason : String) : Outcome :=
  .failed (message ++ "\n\nCaused by:\n    " ++ reason)

/-- A run that ends because the configuration cannot be loaded or saved. -/
def ofConfigError (error : ConfigError) : Outcome :=
  match error with
  | .unreadable reason => .failedBy error.message reason
  | _ => .failed error.message

/-- The outcome of arguments that are no request. -/
def ofStop : Stop → Outcome
  | .help topic => { output := help topic }
  | .version => { output := version }
  | .idle => { code := 2, errors := help .program }
  | .misuse topic misuse shown => { code := 2, errors := misuseReport topic misuse shown }

end Outcome

/-- What is left to do for a request: to end, or to run a session first. -/
inductive Plan where
  | finish (outcome : Outcome)
  | session (configDir : Path) (config : Config)
  deriving DecidableEq

/-! ## Configuration files -/

/-- The name of the configuration file. -/
def configFileName : String := "config.json"

/-- The configuration directory below the home directory. -/
def defaultDirName : String := ".agh"

/-- The path of the configuration directory. -/
def configDir (invocation : Invocation) (home : String) : Path :=
  match invocation.configDir with
  | some dir => .ofText dir
  | none => (Path.ofText home).join defaultDirName

/-- The configuration file that the reading of a file gives. -/
def configFileOf : Except FileError (Option String) → ConfigFile
  | .ok none => .absent
  | .ok (some text) => .text text
  | .error error => .unreadable error.message

/-- Saves a configuration in a directory. -/
def save {m : Type → Type} [Monad m] (files : Files m) (dir : Path) (config : Config) :
    m (Except ConfigError Unit) := do
  match ← files.makeDirs dir with
  | .error error => return .error (.unreadable error.message)
  | .ok () =>
    match ← files.write (dir.join configFileName) config.fileText with
    | .error error => return .error (.unreadable error.message)
    | .ok () => return .ok ()

/-- Loads the configuration of a directory and an environment. -/
def load {m : Type → Type} [Monad m] (files : Files m) (dir : Path)
    (environment : List (String × String)) : m (Except ConfigError Config) := do
  return Config.load (configFileOf (← files.read (dir.join configFileName))) environment

/-! ## Checking a command -/

/-- An argument as it is shown: strings as literals, all else as it is written. -/
def describe : Arg → String
  | .str text => Text.literal text
  | argument => argument.text

/-- The lines on the arguments of a command, numbered from `first`. -/
def argumentLines (first : Nat) : List Arg → List Styled
  | [] => []
  | argument :: rest =>
    ("  arg " ++ toString first ++ ": " ++ argument.kindName ++ " " ++ describe argument) ::
      argumentLines (first + 1) rest

/-- The line on the source of a command, if it has one. -/
def sourceLines : Option SourceTag → List Styled
  | none => []
  | some tag =>
    ["  source: " ++ tag.raw ++ " (channel " ++ tag.channel ++ ", address " ++ tag.address ++ ")"]

/-- The report on an accepted command. -/
def acceptedReport (command : Command) : Styled :=
  unlines
      [marked [.green, .bold] "accepted", "  id: " ++ toString command.id.toNat,
        "  operation: " ++ command.operation] ++
    unlines (argumentLines 1 command.arguments ++ sourceLines command.source)

/-- Checks a command line by the configured limits. -/
def check (config : Config) (text : String) (source : Option String) : Outcome :=
  match Command.ofText text source config.protocol with
  | .ok command => { output := acceptedReport command }
  | .error rejection =>
    .failed "command rejected"
      (unlines [marked [.red, .bold] "rejected:" ++ " " ++ rejection.message])

/-! ## The configuration -/

/-- Prints the configuration. -/
def showConfig (config : Config) : Outcome :=
  { output := unlines [config.fileText] }

/-- Saves the default configuration in a directory, if it has none or that does not matter. -/
def init {m : Type → Type} [Monad m] (files : Files m) (dir : Path) (force : Bool) :
    m Outcome := do
  let path := dir.join configFileName
  if configFileOf (← files.read path) ≠ .absent ∧ !force then
    return .failed (path.text ++ " already exists (use --force to overwrite)")
  match ← save files dir {} with
  | .error error => return .ofConfigError error
  | .ok () =>
    let notice := marked [.green] "Configuration written to"
    return { output := unlines [notice ++ " " ++ path.text] }

/-! ## Requests -/

/-- Does what was asked for. -/
def perform {m : Type → Type} [Monad m] (files : Files m) (invocation : Invocation)
    (home : String) (environment : List (String × String)) : m Plan := do
  let dir := configDir invocation home
  let whenLoaded (next : Config → Plan) : m Plan := do
    match ← load files dir environment with
    | .error error => return .finish (.ofConfigError error)
    | .ok config => return next config
  match invocation.request with
  | .run => whenLoaded fun config => .session dir config
  | .check text source => whenLoaded fun config => .finish (check config text source)
  | .showConfig => whenLoaded fun config => .finish (showConfig config)
  | .init force => return .finish (← init files dir force)

end AgentBus.CommandLine
