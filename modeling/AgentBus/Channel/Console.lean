import AgentBus.Channel.Basic
import AgentBus.Worker.Basic

/-!
# The console

The console is the channel of the process's own input and output. Its worker hands every line of
the input that is not blank to the core, and its one handler prints the texts and events that
arrive.
-/

namespace AgentBus.Console

variable {ω σ : Type}

/-- The name of the channel. -/
def channelName : String := "CONSOLE"

/-- The address of the only peer. -/
def address : String := "stdin"

/-- The name of the worker. -/
def workerName : String := "console"

/-! ## Output -/

/-- What is printed of a message. -/
def printed? : Payload → Option String
  | .sendText payload => some payload.text
  | .transportText payload => some payload.text
  | .event text => some text
  | .recvText _ => none
  | .sendCommand _ => none
  | .exit => none

/-- Prints a message on a line of its own, if it is of a kind that is printed. -/
def present (print : String → BusProgram ω Unit) (payload : Payload) : BusProgram ω Unit :=
  match printed? payload with
  | none => .done ()
  | some text => print (text ++ "\n")

/-- The handler that prints what arrives. How it prints depends on the handler's state. -/
def writer (print : σ → String → BusProgram ω Unit) : Behaviour ω σ :=
  .handling (fun _ => "console-writer") fun _ handler message =>
    ((present (print handler) message.payload).bind fun _ => .done { handler, message }).left

/-! ## Input -/

/-- A line without the end of line that closes it: a newline, with a carriage return before it or
not. -/
def closeLine (line : List UInt8) : List UInt8 :=
  if line.getLast? = some 0x0d then line.dropLast else line

/-- The lines of an input as bytes. What follows the last newline is a line if it is not empty. -/
def byteLines (input : List UInt8) : List (List UInt8) :=
  let pieces := Text.pieces 0x0a input
  let last := (pieces.getLast?).getD []
  pieces.dropLast.map closeLine ++ (if last = [] then [] else [last])

/-- The text of a line, if it is UTF-8. -/
def lineText? (line : List UInt8) : Option String :=
  String.fromUTF8? ⟨line.toArray⟩

/-- The texts of a list of lines, up to the first that is not UTF-8. -/
def readable : List (List UInt8) → List String
  | [] => []
  | line :: rest =>
    match lineText? line with
    | none => []
    | some text => text :: readable rest

/-- The lines that are read from an input: reading stops at a line that is not UTF-8. -/
def lines (input : List UInt8) : List String :=
  readable (byteLines input)

/-! ## Worker -/

/-- Hands a line to the core. Lines that cannot be handed over are lost. -/
def feed (channel : Channel) (line : String) : BusProgram ω Unit :=
  (channel.handOver address line).bind fun _ => .done ()

/-- The jobs that hand the lines of an input to the core, without the blank ones. -/
def jobs (channel : Channel) (lines : List String) : List (BusProgram ω Unit) :=
  (lines.filter fun line => !Text.isBlankLine line).map (feed channel)

/-- The channel that the worker feeds. -/
def channel (config : ConsoleConfig) (post : Post) (limits : Limits) : Channel :=
  .make channelName config.allowFrom post.own post.core limits

/-- The worker of the console, with its handler and the lines of its input. -/
def worker (config : ConsoleConfig) (handler : σ) (lines : List String) : Worker ω σ where
  name := workerName
  init post :=
    (BusProgram.change (.bind channelName post.own)).bind fun _ =>
      .done { handlers := [(handler, true)] }
  main post :=
    BusProgram.context.bind fun context =>
      .done (.serve (jobs (channel config post context.limits) lines) 0)

/-- The workers of all channels that a configuration enables. -/
def channelWorkers (config : Config) (handler : σ) (lines : List String) : List (Worker ω σ) :=
  if config.channels.console.enabled then [worker config.channels.console handler lines] else []

end AgentBus.Console
