import AgentBus.CommandLine.Arguments
import AgentBus.CommandLine.Styled
import AgentBus.Core.Operation

/-!
# Usage

What the program says about its own arguments: help, version, and the reasons why arguments make no
sense. What can be typed as it stands is set off, as are the parts that are wrong.
-/

namespace AgentBus.CommandLine

/-- The name of the program. -/
def programName : String := "agh"

/-! ## Marks -/

/-- A title. -/
def heading (text : String) : Styled := marked [.bold, .underlined] text

/-- What can be typed as it stands. -/
def literal (text : String) : Styled := marked [.bold] text

/-- What is wrong. -/
def invalid (text : String) : Styled := marked [.yellow] text

/-- What would be right. -/
def valid (text : String) : Styled := marked [.green] text

/-! ## Summaries -/

/-- What the program does. -/
def programSummary : String := "Agent coordinating worker threads over a private command bus"

/-- What the word for help does. -/
def helpSummary : String := "Print this message or the help of the given subcommand(s)"

/-- What a verb does. -/
def Verb.summary : Verb → String
  | .run => "Run the agent until SIGINT or a `quit` command"
  | .check => "Parse one command line and show the result"
  | .config => "Print the effective configuration"
  | .init => "Write the default configuration file"

/-- What an option does. -/
def Flag.summary : Flag → String
  | .configDir => "Configuration directory"
  | .source => "Source tag to attach, e.g. CONSOLE=stdin"
  | .force => "Overwrite an existing file"
  | .help => "Print help"
  | .version => "Print version"

/-! ## Usage lines -/

/-- An option with what stands for its value. -/
def Flag.styled (flag : Flag) : Styled :=
  literal ("--" ++ flag.name) ++
    match flag.valueName? with
    | none => []
    | some value => " " ++ value

/-- What stands for the text of a verb that has one. -/
def Verb.textNames (verb : Verb) : List Styled :=
  if verb = .check then ["<TEXT>"] else []

/-- The line on the usage of a command and of what may follow it. -/
def usageLine (command : List String) (parts : List Styled) : Styled :=
  separated " " (heading "Usage:" :: literal (" ".intercalate (programName :: command)) :: parts)

/-- How the topic of a message is used. -/
def usage : Topic → Styled
  | .program => usageLine [] ["[OPTIONS]", "<COMMAND>"]
  | .verb verb => usageLine [verb.name] ("[OPTIONS]" :: verb.textNames)
  | .help => usageLine [helpWord] ["[COMMAND]..."]

/-- How a topic is used with just these options. -/
def usageWith (flags : List Flag) : Topic → Styled
  | .verb verb => usageLine [verb.name] (flags.map Flag.styled ++ verb.textNames)
  | _ => usageLine [] (flags.map Flag.styled ++ [↑"<COMMAND>"])

/-! ## Help -/

/-- A text filled up with blanks. -/
def padding (width : Nat) (text : String) : String :=
  "".pushn ' ' (width - text.length)

/-- The line on a command in a list of them. -/
def commandLine (name summary : String) : Styled :=
  "  " ++ literal name ++ padding 8 name ++ summary

/-- The line on an option in a list of them. -/
def Flag.line (flag : Flag) : Styled :=
  "  " ++ literal (String.ofList ['-', flag.letter]) ++ ", " ++ flag.styled ++
    padding 27 flag.text ++ flag.summary

/-- The lines on the options behind a verb, or before any. -/
def optionLines (verb : Option Verb) : List Styled :=
  heading "Options:" :: (Flag.all.filter fun flag => flag.fits verb).map Flag.line

/-- The lines on the texts of a verb. -/
def textLines : Verb → List Styled
  | .check =>
    [heading "Arguments:", "  <TEXT>  Command text, e.g. 'AT = ( 1, \"ping\" )'", ""]
  | _ => []

/-- The lines on the commands. -/
def commandLines : List Styled :=
  heading "Commands:" :: Verb.all.map (fun verb => commandLine verb.name verb.summary) ++
    [commandLine helpWord helpSummary, ""]

/-- What help on a topic begins with. -/
def introduction (summary : String) (topic : Topic) : Styled :=
  unlines [summary, "", usage topic, ""]

/-- The help on a topic. -/
def help : Topic → Styled
  | .program =>
    introduction programSummary .program ++ unlines (commandLines ++ optionLines none)
  | .verb verb =>
    introduction verb.summary (.verb verb) ++ unlines (textLines verb ++ optionLines (some verb))
  | .help =>
    introduction helpSummary .help ++
      unlines [heading "Arguments:", "  [COMMAND]...  Print help for the subcommand(s)"]

/-- The version of the program. -/
def version : Styled :=
  unlines [programName ++ " " ++ agentVersion]

/-! ## Misuse -/

namespace Misuse

/-- The wording of each misuse. -/
def message : Misuse → Styled
  | .unknownOption written => "unexpected argument '" ++ invalid written ++ "' found"
  | .unknownLetter written => "unexpected argument '" ++ invalid written ++ "' found"
  | .unexpectedText text => "unexpected argument '" ++ invalid text ++ "' found"
  | .misplacedVerb name => "unexpected argument '" ++ invalid name ++ "' found"
  | .unknownVerb name => "unrecognized subcommand '" ++ invalid name ++ "'"
  | .missingVerb =>
    "'" ++ invalid programName ++ "' requires a subcommand but one was not provided\n" ++
      "  [subcommands: " ++
      separated ", " ((Verb.all.map Verb.name ++ [helpWord]).map valid) ++ "]"
  | .missingText =>
    "the following required arguments were not provided:\n  " ++ valid "<TEXT>"
  | .missingValue flag =>
    "a value is required for '" ++ invalid flag.text ++ "' but none was supplied"
  | .unexpectedValue flag value =>
    "unexpected value '" ++ invalid value ++ "' for '" ++ literal flag.text ++
      "' found; no more were expected"
  | .repeated flag =>
    "the argument '" ++ invalid flag.text ++ "' cannot be used multiple times"

/-- A piece of advice. -/
def tip (advice : Styled) : Styled :=
  "  " ++ valid "tip:" ++ " " ++ advice

/-- How to give something as a text that looks like an option, if texts are expected. -/
def textTips (topic : Topic) (written : String) : List Styled :=
  if topic = .verb .check then
    [tip ("to pass '" ++ invalid written ++ "' as a value, use '" ++ valid ("-- " ++ written) ++
      "'")]
  else []

/-- The advice that goes with a misuse. -/
def tips (topic : Topic) : Misuse → List Styled
  | .unknownOption written => textTips topic written
  | .unknownLetter written => textTips topic written
  | .misplacedVerb name =>
    [tip ("subcommand '" ++ valid name ++ "' exists; to use it, remove the '" ++ invalid "--" ++
      "' before it")]
  | _ => []

/-- The usage that is shown with a misuse; none where only a value is missing. -/
def usageLines (topic : Topic) (shown : Option (List Flag)) : Misuse → List Styled
  | .missingValue _ => []
  | _ => [(shown.map fun flags => usageWith flags topic).getD (usage topic)]

end Misuse

/-- Where to read more, if the topic has help of its own. -/
def advice : Topic → List Styled
  | .help => []
  | _ => ["For more information, try '" ++ literal "--help" ++ "'."]

/-- The report of a misuse: paragraphs with a blank line between them. -/
def misuseReport (topic : Topic) (misuse : Misuse) (shown : Option (List Flag)) : Styled :=
  let first := marked [.bold, .red] "error:" ++ " " ++ misuse.message
  unlines
    [separated "\n\n"
      (first :: misuse.tips topic ++ misuse.usageLines topic shown ++ advice topic)]

end AgentBus.CommandLine
