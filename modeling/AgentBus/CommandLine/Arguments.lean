/-!
# Arguments

The arguments of the program: a verb with its options and texts, and options that go with every
verb. `Invocation.ofArguments` reads them one after the other and stops at the first that asks for
help or makes no sense.

An option whose value is the next argument is settled late: when another option comes, a text, or
the end. Until then nothing is said about its value, and whatever else makes no sense is reported
in its place.
-/

namespace AgentBus.CommandLine

/-! ## Verbs and options -/

/-- What the program can be told to do. -/
inductive Verb where
  | run
  | check
  | config
  | init
  deriving DecidableEq

namespace Verb

def all : List Verb := [.run, .check, .config, .init]

def name : Verb → String
  | .run => "run"
  | .check => "check"
  | .config => "config"
  | .init => "init"

/-- The verb with a name. -/
def ofName? (name : String) : Option Verb :=
  all.find? fun verb => verb.name = name

end Verb

/-- The word that asks for help. -/
def helpWord : String := "help"

/-- What help or a misuse is about. -/
inductive Topic where
  | program
  | verb (verb : Verb)
  | help
  deriving DecidableEq

/-- An option. -/
inductive Flag where
  | configDir
  | source
  | force
  | help
  | version
  deriving DecidableEq

namespace Flag

/-- All options, in the order in which help lists them. -/
def all : List Flag := [.source, .force, .configDir, .help, .version]

/-- The long name of an option. -/
def name : Flag → String
  | .configDir => "config-dir"
  | .source => "from"
  | .force => "force"
  | .help => "help"
  | .version => "version"

/-- The letter of an option. -/
def letter : Flag → Char
  | .configDir => 'c'
  | .source => 'f'
  | .force => 'f'
  | .help => 'h'
  | .version => 'V'

/-- What stands for the value of an option in messages, if it has one. -/
def valueName? : Flag → Option String
  | .configDir => some "<CONFIG_DIR>"
  | .source => some "<FROM>"
  | _ => none

/-- How an option is written in messages. -/
def text (flag : Flag) : String :=
  match flag.valueName? with
  | none => "--" ++ flag.name
  | some value => "--" ++ flag.name ++ " " ++ value

/-- Whether an option has a value. -/
def takesValue (flag : Flag) : Bool := flag.valueName?.isSome

/-- Whether a value may be given to an option: the name of a directory is not empty. -/
def accepts (flag : Flag) (value : String) : Bool :=
  flag ≠ .configDir || value ≠ ""

/-- Whether an option may stand behind a verb, or before any. -/
def fits (flag : Flag) (verb : Option Verb) : Bool :=
  match flag with
  | .configDir => true
  | .help => true
  | .source => verb = some .check
  | .force => verb = some .init
  | .version => verb = none

/-- The option of a long name. -/
def ofLong? (verb : Option Verb) (name : String) : Option Flag :=
  all.find? fun flag => flag.name = name && flag.fits verb

/-- The option of a letter. -/
def ofShort? (verb : Option Verb) (letter : Char) : Option Flag :=
  all.find? fun flag => flag.letter = letter && flag.fits verb

end Flag

/-- Why arguments make no sense. -/
inductive Misuse where
  | unknownOption (written : String)
  | unknownLetter (written : String)
  | unexpectedText (text : String)
  /-- The name of a verb among the texts. -/
  | misplacedVerb (name : String)
  | unknownVerb (name : String)
  | missingVerb
  | missingText
  | missingValue (flag : Flag)
  | unexpectedValue (flag : Flag) (value : String)
  | repeated (flag : Flag)
  deriving DecidableEq

/-! ## Options given at one place -/

/-- The options given before the verb, or those behind it. -/
structure Options where
  /-- The settled options with their values, in the order in which they were given. -/
  given : List (Flag × String) := []
  /-- The option that is not settled yet, with its value once that has come. -/
  pending : Option (Flag × Option String) := none

namespace Options

/-- The value of an option that was given. -/
def value? (options : Options) (flag : Flag) : Option String :=
  (options.given.find? fun entry => entry.1 = flag).map Prod.snd

/-- Adds an option with its value, which may be given only once. -/
def add (options : Options) (flag : Flag) (value : String) : Except Misuse Options :=
  if (options.value? flag).isSome then .error (.repeated flag)
  else if flag.accepts value then .ok { options with given := options.given ++ [(flag, value)] }
  else .error (.missingValue flag)

/-- Settles the pending option, if there is one. -/
def settle (options : Options) : Except Misuse Options :=
  match options.pending with
  | none => .ok options
  | some (flag, none) => .error (.missingValue flag)
  | some (flag, some value) => { options with pending := none }.add flag value

/-- Adds an option with its value, behind the pending one. -/
def give (options : Options) (flag : Flag) (value : String) : Except Misuse Options :=
  options.settle.bind fun options => options.add flag value

/-- Begins with an option whose value is to come. -/
def await (options : Options) (flag : Flag) : Except Misuse Options :=
  options.settle.map fun options => { options with pending := some (flag, none) }

/-- The option whose value is to come. -/
def awaited? (options : Options) : Option Flag :=
  match options.pending with
  | some (flag, none) => some flag
  | _ => none

/-- The options given so far, without a pending one that makes no sense. -/
def flags (options : Options) : List Flag :=
  match options.settle with
  | .ok settled => settled.given.map Prod.fst
  | .error _ => options.given.map Prod.fst

end Options

/-! ## Reading -/

/-- What ends the reading of arguments before their end. -/
inductive Stop where
  | help (topic : Topic)
  | version
  /-- Nothing at all was asked for. -/
  | idle
  /-- A misuse, with the options to show in place of all that there are. -/
  | misuse (topic : Topic) (misuse : Misuse) (shown : Option (List Flag))
  deriving DecidableEq

/-- The arguments read so far. -/
structure Parsed where
  verb : Option Verb := none
  /-- The options before the verb. -/
  outer : Options := {}
  /-- The options behind the verb. -/
  inner : Options := {}
  text : Option String := none
  /-- Whether everything that follows is text. -/
  onlyTexts : Bool := false

namespace Parsed

/-- What the next argument belongs to. -/
def topic (parsed : Parsed) : Topic :=
  match parsed.verb with
  | none => .program
  | some verb => .verb verb

/-- The options at the present place. -/
def options (parsed : Parsed) : Options :=
  if parsed.verb.isSome then parsed.inner else parsed.outer

def refuse {α : Type} (parsed : Parsed) (misuse : Misuse) : Except Stop α :=
  .error (.misuse parsed.topic misuse none)

/-- Refuses, and shows the options that were given, if there is anything at all. -/
def refuseGiven {α : Type} (parsed : Parsed) (misuse : Misuse) : Except Stop α :=
  let flags := parsed.options.flags
  let nothing : Bool := flags = [] && parsed.text.isNone
  .error (.misuse parsed.topic misuse (if nothing then none else some flags))

/-- Changes the options at the present place. -/
def change (parsed : Parsed) (step : Options → Except Misuse Options) : Except Stop Parsed :=
  match step parsed.options with
  | .error misuse => parsed.refuse misuse
  | .ok options =>
    if parsed.verb.isSome then .ok { parsed with inner := options }
    else .ok { parsed with outer := options }

/-- Sets an option that has no value. -/
def raise (parsed : Parsed) (flag : Flag) : Except Stop Parsed :=
  match flag with
  | .help => (parsed.change Options.settle).bind fun _ => .error (.help parsed.topic)
  | .version => (parsed.change Options.settle).bind fun _ => .error .version
  | flag => parsed.change (·.give flag "")

/-- Reads an argument that begins with two dashes. -/
def long (parsed : Parsed) (argument : String) : Except Stop Parsed :=
  let body := argument.toList.drop 2
  let name := String.ofList (body.takeWhile (· ≠ '='))
  let value := body.dropWhile (· ≠ '=')
  match Flag.ofLong? parsed.verb name with
  | none => parsed.refuseGiven (.unknownOption ("--" ++ name))
  | some flag =>
    match flag.takesValue, value with
    | true, [] => parsed.change (·.await flag)
    | true, _ :: value => parsed.change (·.give flag (String.ofList value))
    | false, [] => parsed.raise flag
    | false, _ :: value =>
      let shown := ((parsed.options.given.map Prod.fst) ++ [flag]).eraseDups
      .error (.misuse parsed.topic (.unexpectedValue flag (String.ofList value)) (some shown))

/-- Reads the letters of an argument that begins with one dash. -/
def short (parsed : Parsed) : List Char → Except Stop Parsed
  | [] => .ok parsed
  | letter :: rest =>
    match Flag.ofShort? parsed.verb letter with
    | none => parsed.refuse (.unknownLetter (String.ofList ['-', letter]))
    | some flag =>
      if flag.takesValue then
        match rest with
        | [] => parsed.change (·.await flag)
        | '=' :: value => parsed.change (·.give flag (String.ofList value))
        | value => parsed.change (·.give flag (String.ofList value))
      else
        match parsed.raise flag with
        | .ok parsed => short parsed rest
        | .error stop => .error stop

/-- Reads an argument that is no option and no value of one. -/
def plain (parsed : Parsed) (argument : String) : Except Stop Parsed :=
  match parsed.verb with
  | none =>
    match Verb.ofName? argument with
    | some verb =>
      if parsed.onlyTexts then parsed.refuse (.misplacedVerb argument)
      else .ok { parsed with verb := some verb }
    | none =>
      if argument = helpWord then parsed.refuse (.misplacedVerb argument)
      else parsed.refuse (.unknownVerb argument)
  | some verb =>
    if verb = .check ∧ parsed.text = none then
      (parsed.change Options.settle).map fun parsed => { parsed with text := some argument }
    else parsed.refuse (.unexpectedText argument)

/-- Reads one argument. One that begins with a dash is an option even where a value is to come,
except for the dash alone. -/
def argument (parsed : Parsed) (argument : String) : Except Stop Parsed :=
  if parsed.onlyTexts then parsed.plain argument
  else
    match argument.toList, parsed.options.awaited? with
    | ['-', '-'], _ => .ok { parsed with onlyTexts := true }
    | '-' :: '-' :: _, _ => parsed.long argument
    | '-' :: letter :: rest, _ => parsed.short (letter :: rest)
    | _, some flag =>
      parsed.change fun options => .ok { options with pending := some (flag, some argument) }
    | _, none => parsed.plain argument

/-- Whether an argument asks for help by word. -/
def asksHelp (parsed : Parsed) (argument : String) : Bool :=
  argument = helpWord && parsed.verb.isNone && !parsed.onlyTexts &&
    parsed.options.awaited?.isNone

end Parsed

/-- The help that is asked for by names, each of which belongs to the topic of those before. -/
def helpOn (topic : Topic) : List String → Stop
  | [] => .help topic
  | name :: rest =>
    let next : Option Topic :=
      if topic ≠ .program then none
      else if name = helpWord then some .help
      else (Verb.ofName? name).map .verb
    match next with
    | some topic => helpOn topic rest
    | none => .misuse topic (.unknownVerb name) none

/-- Reads arguments up to their end. -/
def Parsed.readAll (parsed : Parsed) : List String → Except Stop Parsed
  | [] => .ok parsed
  | argument :: rest =>
    if parsed.asksHelp argument then .error (helpOn .program rest)
    else
      match parsed.argument argument with
      | .ok parsed => parsed.readAll rest
      | .error stop => .error stop

/-! ## Requests -/

/-- What the program is asked to do. -/
inductive Request where
  | run
  | check (text : String) (source : Option String)
  | showConfig
  | init (force : Bool)
  deriving DecidableEq

/-- A request, with the configuration directory if one is given. -/
structure Invocation where
  request : Request
  configDir : Option String
  deriving DecidableEq

/-- The request of a verb with settled options. -/
def Parsed.request (parsed : Parsed) (verb : Verb) : Except Stop Request :=
  match verb, parsed.text with
  | .run, _ => .ok .run
  | .config, _ => .ok .showConfig
  | .init, _ => .ok (.init (parsed.inner.value? .force).isSome)
  | .check, some text => .ok (.check text (parsed.inner.value? .source))
  | .check, none =>
    .error (.misuse (.verb .check) .missingText (some (parsed.inner.given.map Prod.fst)))

/-- What arguments ask for that were all read. The options behind the verb are settled first, and a
directory given there counts more than one given before it. -/
def Parsed.invocation (parsed : Parsed) : Except Stop Invocation :=
  match parsed.change Options.settle, parsed.verb with
  | .error stop, _ => .error stop
  | .ok parsed, none =>
    if parsed.outer.given = [] then .error .idle else parsed.refuse .missingVerb
  | .ok parsed, some verb =>
    match parsed.request verb, parsed.outer.settle with
    | .error stop, _ => .error stop
    | .ok _, .error misuse => .error (.misuse .program misuse none)
    | .ok request, .ok outer =>
      .ok { request, configDir := parsed.inner.value? .configDir <|> outer.value? .configDir }

/-- Reads the arguments of the program. -/
def Invocation.ofArguments (arguments : List String) : Except Stop Invocation :=
  (Parsed.readAll {} arguments).bind Parsed.invocation

end AgentBus.CommandLine
