import AgentBus.Core.Operation
import AgentBus.Handler.Basic
import AgentBus.Text.Basic

/-!
# The handlers of the core

Three handlers stand on the core's endpoint. The ingress turns received lines into commands, which
it sends back to the same endpoint on behalf of whoever sent the line. The operations answer
commands. The router forwards events to every channel, and answers that come back to the core to
the channel of their source.
-/

namespace AgentBus

/-- The handlers that stand on the core's endpoint; none of them has a state. -/
inductive CoreHandler where
  | ingress
  | operations
  | router
  deriving DecidableEq

namespace CoreHandler

variable {ω : Type}

def name : CoreHandler → String
  | .ingress => "ingress"
  | .operations => "operations"
  | .router => "router"

/-- The shared context, if it was bound to the chain. -/
def context? (scope : Scope) : BusProgram ω (Option Context) :=
  if scope.bound then BusProgram.context.bind fun context => .done (some context) else .done none

/-! ## Ingress -/

/-- The endpoint that a message came from, or the own endpoint if that is gone. -/
def requester (scope : Scope) (message : Message) : BusProgram ω EndpointId :=
  match message.route with
  | none => .done scope.endpoint
  | some route =>
    (BusProgram.look route.source).bind fun source =>
      .done (if source.isSome then route.source else scope.endpoint)

/-- Sends the command of a received line to the own endpoint, from the one that sent the line.
Blanks at the end of the line do not count. Lines that are no commands are dropped. -/
def receive (scope : Scope) (message : Message) (payload : TextPayload) : BusProgram ω Unit :=
  (context? scope).bind fun context =>
    let limits := (context.map Context.limits).getD {}
    match Command.ofText (Text.trimEnd payload.text) payload.source limits with
    | .error _ => .done ()
    | .ok command =>
      (requester scope message).bind fun source =>
        (BusProgram.send (.ofPayload (.sendCommand command)) source scope.endpoint).bind
          fun _ => .done ()

/-! ## Operations -/

/-- Requests the shutdown of the agent if a command asks for it. -/
def quit (scope : Scope) (command : Command) : BusProgram ω Unit :=
  if Operation.ofName? command.operation = some .quit ∧ scope.bound then
    (BusProgram.change .requestShutdown).bind fun _ => .done ()
  else .done ()

/-- The text that carries a command's answer to its source. -/
def answerText (command : Command) : TextPayload where
  text := command.answer.render
  source := command.source.map SourceTag.raw

/-- Executes a command. The command loses its pending answer, which is returned as text. -/
def execute (scope : Scope) (command : Command) : BusProgram ω (Command × TextPayload) :=
  (context? scope).bind fun context =>
    (quit scope command).bind fun _ =>
      let executed := command.execute ((context.map Survey.ofContext).getD {})
      .done (executed.withoutAnswer, answerText executed)

/-! ## Router -/

/-- Sends one event to each of a list of channels, in order. -/
def fanOut (own : EndpointId) (text : String) :
    NameTable EndpointId → BusProgram ω Unit
  | [] => .done ()
  | (_, endpoint) :: rest =>
    (BusProgram.send (.ofPayload (.event text)) own endpoint).bind fun _ => fanOut own text rest

/-- The endpoint of the channel that a text's source tag names. -/
def channelFor? (context : Context) (payload : TextPayload) : Option EndpointId :=
  payload.source.bind fun source =>
    (SourceTag.ofText? source context.limits.maxSourceLength.toNat).bind fun tag =>
      context.directory.channel? tag.channel

/-- Forwards events to all channels, and texts to the channel of their source. -/
def route (own : EndpointId) (context : Context) : Payload → BusProgram ω Unit
  | .event text => fanOut own text context.directory.channels
  | .sendText payload =>
    match channelFor? context payload with
    | none => .done ()
    | some endpoint =>
      (BusProgram.send (.ofPayload (.transportText payload)) own endpoint).bind fun _ => .done ()
  | _ => .done ()

/-! ## Behaviour -/

/-- What each handler does with a message. -/
def handle (scope : Scope) (handler : CoreHandler) (message : Message) :
    BusProgram ω (Handled CoreHandler) :=
  match handler, message.payload with
  | .ingress, .recvText payload =>
    (receive scope message payload).bind fun _ => .done { handler, message }
  | .operations, .sendCommand command =>
    (execute scope command).bind fun executed =>
      .done
        { handler
          message := { message with payload := .sendCommand executed.1 }
          answer := some (.ofPayload (.sendText executed.2)) }
  | .router, payload =>
    (context? scope).bind fun context =>
      match context with
      | none => .done { handler, message }
      | some context =>
        (route scope.endpoint context payload).bind fun _ => .done { handler, message }
  | _, _ => .done { handler, message }

/-- The behaviour of the core's handlers. -/
def behaviour : Behaviour ω CoreHandler :=
  .handling name fun scope handler message => (handle scope handler message).left

end CoreHandler

end AgentBus
