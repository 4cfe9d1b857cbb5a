import AgentBus.Worker.Basic

/-!
# Workers by script

A script is a worker given by data: the channels that it binds, its handlers, the messages that it
sends to the core, and how its thread goes on. Its handlers are collectors, which record what texts
and events they get, and may answer texts. Each program of the worker is recorded too.
-/

namespace AgentBus

/-- What a scripted worker and its collectors record. -/
inductive WorkerRecord where
  | init
  | main
  | deinit
  /-- So many handlers did not leave at the end. -/
  | leaked (count : Nat)
  | text (kind : MessageKind) (payload : TextPayload)
  | event (text : String)

/-- A handler that records what it gets. -/
structure Collector where
  name : String
  /-- Whose record it keeps. -/
  owner : String
  /-- The answer to every text that was received. -/
  answer : Option String := none
  failInit : Bool := false
  /-- Whether it stays in its chain at the end. -/
  stay : Bool := false

namespace Collector

variable {ω : Type}

/-- What is recorded of a message. -/
def recordOf? : Payload → Option WorkerRecord
  | .recvText payload => some (.text .recvText payload)
  | .sendText payload => some (.text .sendText payload)
  | .transportText payload => some (.text .transportText payload)
  | .event text => some (.event text)
  | .sendCommand _ => none
  | .exit => none

/-- The answer to a message. -/
def answerTo? (collector : Collector) : Payload → Option Message
  | .recvText _ => collector.answer.map fun text => .ofPayload (.sendText ⟨text, none⟩)
  | _ => none

/-- What collectors do, with their records. -/
def behaviour (record : String → WorkerRecord → ω) : Behaviour ω Collector where
  name := Collector.name
  init _ collector := .done ⟨collector, !collector.failInit⟩
  handle _ collector message :=
    let handled := { handler := collector, message, answer := collector.answerTo? message.payload }
    match recordOf? message.payload with
    | none => .done handled
    | some entry =>
      (BusProgram.emit (record collector.owner entry)).left.bind fun _ => .done handled
  finalize scope collector :=
    if collector.stay then .done collector else Behaviour.leave scope collector

end Collector

/-- A worker given by data. -/
structure WorkerScript (ω : Type) where
  name : String
  /-- Under which it is recorded. -/
  owner : String
  channels : List String := []
  /-- The handlers in order, each enabled or not. -/
  collectors : List (Collector × Bool) := []
  /-- Why `init` fails, if it does. -/
  failInit : Option String := none
  /-- What is sent to the core. -/
  messages : List Message := []
  body : Body ω
  /-- Whether the handlers are left alone at the end. -/
  keepsHandlers : Bool := false

namespace WorkerScript

variable {ω : Type}

/-- Does something for each entry of a list, one after the other. -/
def each {α : Type} (act : α → BusProgram ω Unit) : List α → BusProgram ω Unit
  | [] => .done ()
  | entry :: rest => (act entry).bind fun _ => each act rest

/-- The worker of a script, with its records. -/
def worker (record : String → WorkerRecord → ω) (script : WorkerScript ω) :
    Worker ω Collector :=
  let note (entry : WorkerRecord) : BusProgram ω Unit := .emit (record script.owner entry)
  { name := script.name
    init := fun post =>
      (note .init).bind fun _ =>
        (each (fun channel => (BusProgram.change (.bind channel post.own)).bind fun _ => .done ())
          script.channels).bind fun _ =>
          .done { handlers := script.collectors, failure := script.failInit.map .internal }
    main := fun post =>
      (note .main).bind fun _ =>
        (each (fun message =>
            (BusProgram.send message post.own post.core).bind fun _ => .done ())
          script.messages).bind fun _ => .done script.body
    deinit := fun _ =>
      (note .deinit).left.bind fun _ =>
        if script.keepsHandlers then .done ()
        else finishHandlers.bind fun count => (note (.leaked count)).left }

end WorkerScript

end AgentBus
