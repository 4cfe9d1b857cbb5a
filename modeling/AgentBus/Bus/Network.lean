import AgentBus.Bus.Context
import AgentBus.Bus.Queue
import AgentBus.Program

/-!
# The network

All endpoints of the agent with their queues and counters, the shared context, and what was written
to the outside. An endpoint lives as long as its mailbox, a handle that somebody keeps, or the
directory holds it; messages name it without holding it.

`Network.send` is the only way into a queue. It takes two steps, the test whether the destination
is tearing down and the delivery, which are definitions of their own: between them other threads
may run.
-/

namespace AgentBus

/-- An endpoint: its name, its state, its counters and its queue. -/
structure Endpoint where
  name : String
  tearingDown : Bool := false
  /-- Whether there is still a mailbox that takes messages out of the queue. -/
  served : Bool := true
  /-- The messages that were accepted into the queue. -/
  queued : Nat := 0
  /-- The messages that went through the handler chain. -/
  dispatched : Nat := 0
  /-- The messages that were released without reaching a handler. -/
  dropped : Nat := 0
  queue : Queue Message := {}
  deriving DecidableEq

/-- What everyone with a handle can see of an endpoint. -/
structure EndpointInfo where
  name : String
  tearingDown : Bool
  queued : Nat
  dispatched : Nat
  dropped : Nat
  deriving DecidableEq

def Endpoint.info (endpoint : Endpoint) : EndpointInfo :=
  { name := endpoint.name, tearingDown := endpoint.tearingDown, queued := endpoint.queued
    dispatched := endpoint.dispatched, dropped := endpoint.dropped }

/-- What becomes of a message that is sent. -/
inductive Delivery where
  | queued
  | dropped
  deriving DecidableEq

/-- All endpoints, in the order of their creation, with everything their threads share. The type
`ω` is that of the things written to the outside. -/
structure Network (ω : Type) where
  context : Context := {}
  endpoints : List Endpoint := []
  /-- Handles that keep endpoints alive, one entry for each handle. -/
  handles : List EndpointId := []
  output : Queue ω := {}

namespace Network

variable {ω : Type}

/-! ## Endpoints -/

/-- The record of an endpoint, also after its life. -/
def endpoint? (net : Network ω) (id : EndpointId) : Option Endpoint :=
  net.endpoints[id.index]?

/-- Changes the record of an endpoint. -/
def update (net : Network ω) (id : EndpointId) (f : Endpoint → Endpoint) : Network ω :=
  { net with endpoints := net.endpoints.modify id.index f }

/-- A new endpoint with its mailbox. -/
def create (net : Network ω) (name : String) : EndpointId × Network ω :=
  (⟨net.endpoints.length⟩, { net with endpoints := net.endpoints ++ [{ name }] })

/-- The mailbox of an endpoint goes away, and the messages in its queue with it. -/
def close (net : Network ω) (id : EndpointId) : Network ω :=
  net.update id fun endpoint => { endpoint with served := false, queue := {} }

/-- Keeps an endpoint alive. -/
def hold (net : Network ω) (id : EndpointId) : Network ω :=
  { net with handles := id :: net.handles }

/-- Gives one handle up. -/
def release (net : Network ω) (id : EndpointId) : Network ω :=
  { net with handles := net.handles.erase id }

/-- Whether an endpoint is still held by anything. -/
def isAlive (net : Network ω) (id : EndpointId) : Bool :=
  (net.endpoint? id).any (·.served) || net.handles.contains id || net.context.directory.holds id

/-- The record of an endpoint that is still alive. -/
def living? (net : Network ω) (id : EndpointId) : Option Endpoint :=
  if net.isAlive id then net.endpoint? id else none

def isTearingDown (net : Network ω) (id : EndpointId) : Bool :=
  (net.endpoint? id).any (·.tearingDown)

/-- Turns every later delivery to an endpoint into a drop. -/
def tearDown (net : Network ω) (id : EndpointId) : Network ω :=
  net.update id fun endpoint => { endpoint with tearingDown := true }

def recordDispatched (net : Network ω) (id : EndpointId) : Network ω :=
  net.update id fun endpoint => { endpoint with dispatched := endpoint.dispatched + 1 }

def recordDropped (net : Network ω) (id : EndpointId) : Network ω :=
  net.update id fun endpoint => { endpoint with dropped := endpoint.dropped + 1 }

/-! ## Queues -/

/-- Appends a message to the queue of an endpoint that has a mailbox, and drops it otherwise. -/
def deliver (net : Network ω) (message : Message) (source destination : EndpointId) :
    Delivery × Network ω :=
  if (net.endpoint? destination).any (·.served) then
    (.queued,
      net.update destination fun endpoint =>
        { endpoint with
          queued := endpoint.queued + 1
          queue := endpoint.queue.push (message.routed source destination) })
  else (.dropped, net.recordDropped destination)

/-- Sends a message: it is dropped if the destination is tearing down, and delivered otherwise. -/
def send (net : Network ω) (message : Message) (source destination : EndpointId) :
    Delivery × Network ω :=
  if net.isTearingDown destination then (.dropped, net.recordDropped destination)
  else net.deliver message source destination

/-- Takes the oldest message out of a queue. -/
def take (net : Network ω) (id : EndpointId) : Option (Message × Network ω) :=
  match net.endpoint? id with
  | none => none
  | some endpoint =>
    match endpoint.queue.pop? with
    | none => none
    | some (message, rest) =>
      some (message, net.update id fun endpoint => { endpoint with queue := rest })

/-- Takes all messages out of a queue, oldest first. -/
def takeAll (net : Network ω) (id : EndpointId) : List Message × Network ω :=
  (((net.endpoint? id).map fun endpoint => endpoint.queue.toList).getD [],
    net.update id fun endpoint => { endpoint with queue := {} })

end Network

/-! ## Requests -/

/-- What a thread can ask of the network. -/
inductive BusRequest (ω : Type) where
  | send (message : Message) (source destination : EndpointId)
  /-- The state of an endpoint, if it is still alive. -/
  | look (endpoint : EndpointId)
  | tearDown (endpoint : EndpointId)
  /-- The shared context as it is now. -/
  | context
  /-- A change of the shared context; the response is the context before it. -/
  | change (change : ContextChange)
  | emit (output : ω)

def BusRequest.Response {ω : Type} : BusRequest ω → Type
  | .send .. => Delivery
  | .look _ => Option EndpointInfo
  | .tearDown _ => Unit
  | .context => Context
  | .change _ => Context
  | .emit _ => Unit

/-- The requests that every thread can make. -/
abbrev busSignature (ω : Type) : Signature where
  Request := BusRequest ω
  Response := BusRequest.Response

/-- A program of bus requests only. -/
abbrev BusProgram (ω α : Type) := Program (busSignature ω) α

namespace Network

variable {ω : Type}

/-- How the requests act on the network. -/
def perform : Program.Performer (busSignature ω) (Network ω)
  | .send message source destination, net => net.send message source destination
  | .look endpoint, net => ((net.living? endpoint).map Endpoint.info, net)
  | .tearDown endpoint, net => ((), net.tearDown endpoint)
  | .context, net => (net.context, net)
  | .change change, net => (net.context, { net with context := net.context.apply change })
  | .emit output, net => ((), { net with output := net.output.push output })

end Network

namespace BusProgram

variable {ω : Type}

def send (message : Message) (source destination : EndpointId) : BusProgram ω Delivery :=
  .ask (BusRequest.send message source destination) .done

def look (endpoint : EndpointId) : BusProgram ω (Option EndpointInfo) :=
  .ask (BusRequest.look endpoint) .done

def tearDown (endpoint : EndpointId) : BusProgram ω Unit :=
  .ask (BusRequest.tearDown endpoint) .done

def context : BusProgram ω Context :=
  .ask (BusRequest.context) .done

def change (change : ContextChange) : BusProgram ω Context :=
  .ask (BusRequest.change change) .done

def emit (output : ω) : BusProgram ω Unit :=
  .ask (BusRequest.emit output) .done

end BusProgram

end AgentBus
