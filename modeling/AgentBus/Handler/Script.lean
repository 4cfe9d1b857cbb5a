import AgentBus.Handler.Basic

/-!
# Handlers by script

A script is a handler given by data: what it does in each callback is a list of actions, chosen for
a message by the first rule that takes it. Scripts refer to endpoints by labels, which are looked up
when an action runs, and every callback and every send is recorded.

Scripts put handlers of any kind together without a program for each: ones that fail, that change
their chain or the message, that send, or that do not leave.
-/

namespace AgentBus

/-- A change of a message's payload in place. -/
structure Edit where
  /-- The new text of a payload that is a text. -/
  text : String := ""
  /-- What is set in the pending answer of a command. -/
  status : Option Status := none
  isData : Option Bool := none
  parts : List String := []

namespace Edit

/-- Edits the content of a command's pending answer. -/
def applyToBody (edit : Edit) (body : FrameBody) : FrameBody :=
  let body := (edit.status.map body.setStatus).getD body
  let body := (edit.isData.map body.setData).getD body
  edit.parts.foldl .addText body

/-- Whether the edit leaves commands alone. -/
def sparesCommands (edit : Edit) : Bool :=
  edit.status.isNone && edit.isData.isNone && edit.parts.isEmpty

/-- Edits a payload. -/
def apply (edit : Edit) : Payload → Payload
  | .recvText payload => .recvText { payload with text := edit.text }
  | .sendText payload => .sendText { payload with text := edit.text }
  | .transportText payload => .transportText { payload with text := edit.text }
  | .event _ => .event edit.text
  | .exit => .exit
  | .sendCommand command =>
    .sendCommand
      (if edit.sparesCommands then command else command.updateAnswer edit.applyToBody)

end Edit

/-- An action of a script. Where a label or a number may be left out, the handler's own endpoint or
its own number is meant. -/
inductive Action where
  /-- Sets the callback's answer; the last one counts. -/
  | answer (message : Message)
  | send (message : Message) (target : Option String)
  | deregister (id : Option HandlerId)
  | setEnabled (id : Option HandlerId) (enabled : Bool)
  | tearDown (target : Option String)
  | requestShutdown
  | edit (edit : Edit)

/-- What a script does with the messages of a kind. -/
structure Rule where
  /-- The kind of messages that are taken; any if there is none. -/
  kind : Option MessageKind := none
  /-- How many more messages are taken; any number if there is none. -/
  times : Option Nat := none
  actions : List Action := []

namespace Rule

def takes (rule : Rule) (kind : MessageKind) : Bool :=
  rule.kind.all (· = kind) && rule.times.all (0 < ·)

/-- The first rule that takes a kind of message, and all rules after it was used once. -/
def use (kind : MessageKind) : List Rule → Option (List Action × List Rule)
  | [] => none
  | rule :: rest =>
    if rule.takes kind then
      some (rule.actions, { rule with times := rule.times.map (· - 1) } :: rest)
    else (use kind rest).map fun used => (used.1, rule :: used.2)

end Rule

/-- A handler given by data. -/
structure Script where
  name : String
  init : List Action := []
  /-- Whether `init` fails after its actions. -/
  failInit : Bool := false
  rules : List Rule := []
  finalize : List Action := []
  /-- Whether the handler stays in its chain at the end. -/
  stay : Bool := false

/-- A message with the names of its endpoints, as far as they are alive. -/
structure SeenMessage where
  message : Message
  source : Option String
  destination : Option String

/-- What a script records. -/
inductive ScriptRecord where
  | called (handler : String) (scope : Scope) (endpoint : String) (callback : Callback)
      (seen : Option SeenMessage)
  /-- The outcome of a send; nothing if its target was gone. -/
  | sent (outcome : Option Delivery)

namespace Script

variable {ω : Type}

/-- The name of an endpoint that is alive. -/
def nameOf? (endpoint : EndpointId) : BusProgram ω (Option String) :=
  (BusProgram.look endpoint).bind fun info => .done (info.map EndpointInfo.name)

/-- A message with the names of its endpoints. -/
def see (message : Message) : BusProgram ω SeenMessage :=
  match message.route with
  | none => .done ⟨message, none, none⟩
  | some route =>
    (nameOf? route.source).bind fun source =>
      (nameOf? route.destination).bind fun destination =>
        .done ⟨message, source, destination⟩

/-- Records a callback. -/
def recordCall (record : ScriptRecord → ω) (scope : Scope) (script : Script) (callback : Callback)
    (message : Option Message) : BusProgram ω Unit :=
  (nameOf? scope.endpoint).bind fun endpoint =>
    let called seen :=
      BusProgram.emit (record (.called script.name scope (endpoint.getD "") callback seen))
    match message with
    | none => called none
    | some message => (see message).bind fun seen => called (some seen)

/-- The endpoint that a label stands for, if it is alive. -/
def resolve? (find : String → Option EndpointId) (scope : Scope) :
    Option String → BusProgram ω (Option EndpointId)
  | none => .done (some scope.endpoint)
  | some label =>
    match find label with
    | none => .done none
    | some endpoint =>
      (BusProgram.look endpoint).bind fun info =>
        .done (if info.isSome then some endpoint else none)

/-- What actions work on: the message, if there is one, and the answer so far. -/
structure Desk where
  message : Option Message
  answer : Option Message := none

/-- Sends a message to an endpoint, and tells what became of it. -/
def sendTo (scope : Scope) (message : Message) :
    Option EndpointId → BusProgram ω (Option Delivery)
  | none => .done none
  | some target =>
    (BusProgram.send message scope.endpoint target).bind fun outcome => .done (some outcome)

/-- Runs one action. -/
def runAction (find : String → Option EndpointId) (record : ScriptRecord → ω) (scope : Scope)
    (desk : Desk) : Action → HandlerProgram ω Desk
  | .answer message => .done { desk with answer := some message }
  | .send message target =>
    ((resolve? find scope target).bind fun endpoint =>
      (sendTo scope message endpoint).bind fun outcome =>
        (BusProgram.emit (record (.sent outcome))).bind fun _ => .done desk).left
  | .deregister id =>
    (ChainChange.deregister (id.getD scope.id)).ask.bind fun _ => .done desk
  | .setEnabled id enabled =>
    (ChainChange.setEnabled (id.getD scope.id) enabled).ask.bind fun _ => .done desk
  | .tearDown target =>
    ((resolve? find scope target).bind fun endpoint =>
      match endpoint with
      | none => .done desk
      | some endpoint => (BusProgram.tearDown endpoint).bind fun _ => .done desk).left
  | .requestShutdown =>
    if scope.bound then
      ((BusProgram.change .requestShutdown).bind fun _ => .done desk).left
    else .done desk
  | .edit edit =>
    .done
      { desk with
        message := desk.message.map fun message =>
          { message with payload := edit.apply message.payload } }

/-- Runs actions in order. -/
def runActions (find : String → Option EndpointId) (record : ScriptRecord → ω) (scope : Scope) :
    List Action → Desk → HandlerProgram ω Desk
  | [], desk => .done desk
  | action :: rest, desk =>
    (runAction find record scope desk action).bind fun desk =>
      runActions find record scope rest desk

/-- What scripts do, with their labels and their records. -/
def behaviour (find : String → Option EndpointId) (record : ScriptRecord → ω) :
    Behaviour ω Script where
  name := Script.name
  init scope script :=
    (recordCall record scope script .init none).left.bind fun _ =>
      (runActions find record scope script.init ⟨none, none⟩).bind fun _ =>
        .done ⟨script, !script.failInit⟩
  handle scope script message :=
    (recordCall record scope script .handle (some message)).left.bind fun _ =>
      match Rule.use message.payload.kind script.rules with
      | none => .done { handler := script, message }
      | some used =>
        (runActions find record scope used.1 ⟨some message, none⟩).bind fun desk =>
          .done
            { handler := { script with rules := used.2 }
              message := desk.message.getD message
              answer := desk.answer }
  finalize scope script :=
    (recordCall record scope script .finalize none).left.bind fun _ =>
      (runActions find record scope script.finalize ⟨none, none⟩).bind fun _ =>
        if script.stay then .done script else Behaviour.leave scope script

end Script

end AgentBus
