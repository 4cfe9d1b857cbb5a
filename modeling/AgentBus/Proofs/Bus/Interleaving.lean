import Mathlib.Logic.Function.Basic
import AgentBus.Proofs.Mailbox.LoopStep

/-!
# Interleavings

Threads that share a network, acting in any order. Each endpoint has an owner, a thread that works
on its mailbox in loops; all other threads only make requests. A send takes two steps, the test of
the flag and the delivery, and so anything may happen between them.

* `World` — the network, the owners with their handlers and loops, and the sends under way.
* `World.Step` — what one thread may do next, and what occurs in it.
* `World.Run` — any number of such steps, with the trace of all that occurred.
-/

namespace AgentBus

variable {ω σ : Type}

/-! ## Threads -/

/-- The thread that owns a mailbox, or one that owns none. -/
inductive ThreadId where
  | owner (endpoint : EndpointId)
  | other (number : Nat)
  deriving DecidableEq

/-- The owner of a mailbox: its handlers, and the loop it is in. -/
structure Owner (ω σ : Type) where
  chain : Chain σ := {}
  loop : Option (Loop ω σ) := none

/-- All threads on their network. -/
structure World (ω σ : Type) where
  network : Network ω
  owners : EndpointId → Owner ω σ
  /-- The sends that passed the test of the flag and are still to be delivered. -/
  transfers : ThreadId → Option Transfer

/-! ## Occurrences -/

/-- What occurs at an endpoint. -/
inductive Occurrence where
  /-- A thread sends a message, whatever becomes of it. -/
  | sent (thread : ThreadId) (endpoint : EndpointId) (message : Message)
  /-- The message of a thread is appended to the queue. -/
  | appended (thread : ThreadId) (endpoint : EndpointId) (message : Message)
  /-- The owner takes a message out of the queue. -/
  | took (endpoint : EndpointId) (message : Message)
  /-- A dispatch passes the test of the flag, and its handlers will be called. -/
  | began (endpoint : EndpointId) (message : Message)
  /-- A dispatch returns, and the message was handled. -/
  | handled (endpoint : EndpointId) (message : Message)
  /-- A dispatch finds the flag set, and releases the message unseen. -/
  | released (endpoint : EndpointId) (message : Message)
  /-- The flag of the endpoint is set. -/
  | tornDown (endpoint : EndpointId)
  deriving DecidableEq

def Occurrence.endpoint : Occurrence → EndpointId
  | .sent _ endpoint _ => endpoint
  | .appended _ endpoint _ => endpoint
  | .took endpoint _ => endpoint
  | .began endpoint _ => endpoint
  | .handled endpoint _ => endpoint
  | .released endpoint _ => endpoint
  | .tornDown endpoint => endpoint

/-- What occurs in a request that is no send. -/
def BusRequest.occurrences : BusRequest ω → List Occurrence
  | .tearDown endpoint => [.tornDown endpoint]
  | _ => []

/-- What occurs in a delivery. -/
def Delivery.occurrences (thread : ThreadId) (transfer : Transfer) : Delivery → List Occurrence
  | .queued => [.appended thread transfer.destination transfer.routed]
  | .dropped => []

/-- What occurs in a step of a loop that leads from one work to another. -/
def Work.occurrences (own : EndpointId) : Work ω σ → Work ω σ → List Occurrence
  | .free, .taken message => [.took own message]
  | .free, _ => []
  | .taken message, .offering _ _ => [.began own message]
  | .taken message, _ => [.released own message]
  | .offering _ (.ask request _), _ => request.occurrences
  | .offering message (.done _), _ => [.handled own message]

namespace World

/-- The mailbox of an owner on the network. -/
def site (world : World ω σ) (own : EndpointId) : Site ω σ :=
  ⟨⟨own, (world.owners own).chain⟩, world.network⟩

def withNetwork (world : World ω σ) (network : Network ω) : World ω σ :=
  { world with network }

def withOwner (world : World ω σ) (own : EndpointId) (owner : Owner ω σ) : World ω σ :=
  { world with owners := Function.update world.owners own owner }

def withTransfer (world : World ω σ) (thread : ThreadId) (transfer : Option Transfer) :
    World ω σ :=
  { world with transfers := Function.update world.transfers thread transfer }

/-- The world after an owner has worked on its mailbox. -/
def after (world : World ω σ) (own : EndpointId) (site : Site ω σ) (loop : Option (Loop ω σ)) :
    World ω σ :=
  (world.withNetwork site.network).withOwner own ⟨site.mailbox.chain, loop⟩

/-- A thread learns what became of its send. -/
def resume (world : World ω σ) (delivery : Delivery) : ThreadId → World ω σ
  | .other _ => world
  | .owner own =>
    world.withOwner own
      { world.owners own with loop := (world.owners own).loop.map fun loop => loop.resume delivery }

/-- A thread is in no loop, and in no send. -/
def Rests (world : World ω σ) (thread : ThreadId) : Prop :=
  world.transfers thread = none ∧ ∀ own, thread = .owner own → (world.owners own).loop = none

/-- A thread is about to send: a handler has come to it, or the thread rests and does what it
likes. -/
def Sends (world : World ω σ) (thread : ThreadId) (transfer : Transfer) : Prop :=
  world.Rests thread ∨
    world.transfers thread = none ∧
      ∃ own loop, thread = .owner own ∧ (world.owners own).loop = some loop ∧
        loop.sending? = some transfer

/-- The owner of an endpoint can make the next step of its loop. -/
def Loops (world : World ω σ) (own : EndpointId) (loop : Loop ω σ) : Prop :=
  (world.owners own).loop = some loop ∧ world.transfers (.owner own) = none

/-! ## Steps -/

/-- What one thread may do next. -/
inductive Step (B : Behaviour ω σ) : World ω σ → List Occurrence → World ω σ → Prop where
  /-- A send finds the flag set. -/
  | refuse {world : World ω σ} {thread : ThreadId} {transfer : Transfer} :
      world.Sends thread transfer → world.network.isTearingDown transfer.destination = true →
      Step B world [.sent thread transfer.destination transfer.routed]
        ((world.withNetwork (world.network.recordDropped transfer.destination)).resume .dropped
          thread)
  /-- A send finds the flag not set. -/
  | test {world : World ω σ} {thread : ThreadId} {transfer : Transfer} :
      world.Sends thread transfer → world.network.isTearingDown transfer.destination = false →
      Step B world [.sent thread transfer.destination transfer.routed]
        (world.withTransfer thread (some transfer))
  /-- A send goes on with the delivery. -/
  | deliver {world : World ω σ} {thread : ThreadId} {transfer : Transfer} {delivery : Delivery}
      {network : Network ω} :
      world.transfers thread = some transfer →
      world.network.deliver transfer.message transfer.source transfer.destination =
        (delivery, network) →
      Step B world (delivery.occurrences thread transfer)
        (((world.withTransfer thread none).withNetwork network).resume delivery thread)
  /-- A resting thread makes a request that is no send. -/
  | ask {world : World ω σ} {thread : ThreadId} {request : BusRequest ω} :
      world.Rests thread →
      (∀ message source destination, request ≠ .send message source destination) →
      Step B world request.occurrences
        (world.withNetwork (Network.perform request world.network).2)
  /-- An owner rests, and its loop begins. -/
  | enter {world : World ω σ} {own : EndpointId} {loop : Loop ω σ} :
      world.Rests (.owner own) → loop.work = .free →
      Step B world [] (world.withOwner own { world.owners own with loop := some loop })
  /-- A loop makes a step that is no send. -/
  | work {world : World ω σ} {own : EndpointId} {loop next : Loop ω σ} {site : Site ω σ} :
      world.Loops own loop → loop.sending? = none →
      loop.step B (world.site own) = .working next site →
      Step B world (loop.work.occurrences own next.work) (world.after own site (some next))
  /-- A serving loop takes a message although the flag was set since it tested it. -/
  | takeLate {world : World ω σ} {own : EndpointId} {message : Message} {site : Site ω σ} :
      world.Loops own .serving → (world.site own).take = some (message, site) →
      Step B world [.took own message]
        (world.after own site (some ⟨.serving, .taken message⟩))
  /-- A loop ends. -/
  | finish {world : World ω σ} {own : EndpointId} {loop : Loop ω σ} {how : LoopEnd}
      {site : Site ω σ} :
      world.Loops own loop → loop.step B (world.site own) = .ended how site →
      Step B world (loop.work.occurrences own .free) (world.after own site none)
  /-- A loop that looks for its next message is given up. -/
  | leave {world : World ω σ} {own : EndpointId} {loop : Loop ω σ} :
      world.Loops own loop → loop.work = .free →
      Step B world [] (world.withOwner own { world.owners own with loop := none })
  /-- A resting owner changes its handlers. -/
  | install {world : World ω σ} {own : EndpointId} (chain : Chain σ) :
      world.Rests (.owner own) →
      Step B world [] (world.withOwner own { world.owners own with chain })
  /-- A resting owner gives its mailbox up. -/
  | close {world : World ω σ} {own : EndpointId} :
      world.Rests (.owner own) →
      Step B world [] (world.withNetwork (world.network.close own))
  /-- Whatever else changes on the network, new endpoints included, those that there are stay as
  they are. -/
  | pass {world : World ω σ} {network : Network ω} :
      (∀ {id : EndpointId} {endpoint : Endpoint},
        world.network.endpoint? id = some endpoint → network.endpoint? id = some endpoint) →
      Step B world [] (world.withNetwork network)

/-- Any number of steps, with the trace of what occurred in them. -/
inductive Run (B : Behaviour ω σ) (start : World ω σ) : List Occurrence → World ω σ → Prop where
  | nil : Run B start [] start
  | snoc {trace occurrences : List Occurrence} {world next : World ω σ} :
      Run B start trace world → Step B world occurrences next →
      Run B start (trace ++ occurrences) next

/-- An endpoint with an empty queue, an owner in no loop and no send on its way to it, as it is when
it was just created. Anything may go on elsewhere. -/
structure Fresh (world : World ω σ) (e : EndpointId) : Prop where
  queue : ∃ endpoint, world.network.endpoint? e = some endpoint ∧ endpoint.queue.toList = []
  loop : (world.owners e).loop = none
  transfers : ∀ {thread : ThreadId} {transfer : Transfer},
    world.transfers thread = some transfer → transfer.destination ≠ e

end World

end AgentBus
