import AgentBus.Bus.Context
import AgentBus.Json.Write

/-!
# Operations

The operations that commands can ask for, and the answer to each. `Command.execute` writes the
answer to a command, whatever its operation is; every other operation is answered as unknown.
-/

namespace AgentBus

/-- The version that the agent reports. -/
def agentVersion : String := "0.3.0"

/-- An operation that the agent knows. -/
inductive Operation where
  | ping
  | echo
  | version
  | uptime
  | status
  | help
  | quit
  deriving DecidableEq

namespace Operation

/-- The names of the operations, in the order in which `help` lists them. -/
def names : List String := ["ping", "echo", "version", "uptime", "status", "help", "quit"]

/-- The operation that a name asks for. -/
def ofName? : String → Option Operation
  | "ping" => some .ping
  | "echo" => some .echo
  | "version" => some .version
  | "uptime" => some .uptime
  | "status" => some .status
  | "help" => some .help
  | "quit" => some .quit
  | _ => none

end Operation

/-- What operations report about the agent. Without a shared context there is nothing to report. -/
structure Survey where
  uptimeSeconds : Nat := 0
  endpoints : List String := []
  channels : List String := []
  deriving DecidableEq

namespace Survey

/-- The survey of a shared context. -/
def ofContext (context : Context) : Survey where
  uptimeSeconds := context.uptimeSeconds
  endpoints := context.directory.endpoints.names
  channels := context.directory.channels.names

/-- The data that `status` answers with. -/
def report (survey : Survey) : Json :=
  .object
    [("channels", .array (survey.channels.map .string)),
      ("endpoints", .array (survey.endpoints.map .string)),
      ("uptime_s", .number (.integer survey.uptimeSeconds)),
      ("version", .string agentVersion)]

end Survey

/-- Writes an operation's answer into the content of a frame. -/
def Operation.write (arguments : List Arg) (survey : Survey) (body : FrameBody) :
    Operation → FrameBody
  | .ping => (body.setStatus .ok).addText "pong"
  | .echo => (arguments.map Arg.text).foldl .addText (body.setStatus .ok)
  | .version => (body.setStatus .ok).addText agentVersion
  | .uptime => (body.setStatus .ok).addText (toString survey.uptimeSeconds)
  | .status => ((body.setStatus .ok).setData true).addText survey.report.compact
  | .help => names.foldl .addText (body.setStatus .ok)
  | .quit => (body.setStatus .ok).addText "bye"

/-- Writes the answer to a command, also to one whose operation nobody knows. -/
def Command.execute (command : Command) (survey : Survey) : Command :=
  command.updateAnswer fun body =>
    match Operation.ofName? command.operation with
    | some operation => operation.write command.arguments survey body
    | none => (body.setStatus .unknown).addText "unknown operation"

end AgentBus
