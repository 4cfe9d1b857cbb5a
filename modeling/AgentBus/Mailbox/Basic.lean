import AgentBus.Handler.Chain

/-!
# Mailboxes

A mailbox is the receiving side of an endpoint: it takes messages out of the queue and offers them
to its handler chain. A `Site` is a mailbox together with the network it is on; its operations are
what the owner of the mailbox does at one go.
-/

namespace AgentBus

/-- The receiving side of an endpoint. -/
structure Mailbox (σ : Type) where
  endpoint : EndpointId
  chain : Chain σ := {}
  deriving DecidableEq

/-- A mailbox and its network. -/
structure Site (ω σ : Type) where
  mailbox : Mailbox σ
  network : Network ω

/-- What became of a message that was taken up. -/
inductive Dispatch where
  /-- Offered to so many handlers; `exit` tells whether it was an exit message. -/
  | handled (handlers : Nat) (exit : Bool)
  /-- Released unseen because the endpoint is tearing down. -/
  | dropped
  deriving DecidableEq

def Dispatch.isExit : Dispatch → Bool
  | .handled _ exit => exit
  | .dropped => false

namespace Site

variable {ω σ : Type}

/-- The endpoint of the mailbox. -/
def own (site : Site ω σ) : EndpointId :=
  site.mailbox.endpoint

/-- A site with a new endpoint. -/
def create (net : Network ω) (name : String) : Site ω σ :=
  let created := net.create name
  ⟨⟨created.1, {}⟩, created.2⟩

def withNetwork (site : Site ω σ) (net : Network ω) : Site ω σ :=
  { site with network := net }

def withChain (site : Site ω σ) (chain : Chain σ) : Site ω σ :=
  { site with mailbox := { site.mailbox with chain } }

/-- Runs a program of bus requests. -/
def perform {α : Type} (site : Site ω σ) (program : BusProgram ω α) : α × Site ω σ :=
  let done := program.run Network.perform site.network
  (done.1, site.withNetwork done.2)

def isTearingDown (site : Site ω σ) : Bool :=
  site.network.isTearingDown site.own

/-- Marks the endpoint as tearing down. -/
def tearDown (site : Site ω σ) : Site ω σ :=
  site.withNetwork (site.network.tearDown site.own)

/-! ## Handlers -/

/-- Appends a handler to the chain. -/
def register (site : Site ω σ) (handler : σ) : HandlerId × Site ω σ :=
  let registered := site.mailbox.chain.register handler
  (registered.1, site.withChain registered.2)

/-- Runs `init` on the handlers, with the shared context bound or not. -/
def startHandlers (B : Behaviour ω σ) (bound : Bool) (site : Site ω σ) : Site ω σ :=
  let started := site.perform (site.mailbox.chain.startAll B site.own bound)
  started.2.withChain started.1

/-- Runs `finalize` on the handlers and releases them; returns how many had not left. -/
def finishHandlers (B : Behaviour ω σ) (site : Site ω σ) : Nat × Site ω σ :=
  let finished := site.perform (site.mailbox.chain.finishAll B site.own)
  (finished.1.1, finished.2.withChain finished.1.2)

/-! ## Messages -/

/-- The program that offers a message to the chain. -/
def pass (B : Behaviour ω σ) (site : Site ω σ) (message : Message) :
    BusProgram ω (Nat × Chain σ) :=
  site.mailbox.chain.offer B site.own message

/-- Releases a message unseen. -/
def drop (site : Site ω σ) : Site ω σ :=
  site.withNetwork (site.network.recordDropped site.own)

/-- Ends a pass over the chain. -/
def endPass (site : Site ω σ) (chain : Chain σ) : Site ω σ :=
  (site.withChain chain).withNetwork (site.network.recordDispatched site.own)

/-- Runs a message through the chain, unless the endpoint is tearing down. -/
def dispatch (B : Behaviour ω σ) (site : Site ω σ) (message : Message) :
    Dispatch × Site ω σ :=
  if site.isTearingDown then (.dropped, site.drop)
  else
    let offered := site.perform (site.pass B message)
    (.handled offered.1.1 message.isExit, offered.2.endPass offered.1.2)

/-- Takes the oldest message out of the queue. -/
def take (site : Site ω σ) : Option (Message × Site ω σ) :=
  (site.network.take site.own).map fun taken => (taken.1, site.withNetwork taken.2)

/-- What a loop finds that looks for its next message. -/
inductive Next (ω σ : Type) where
  | message (message : Message) (site : Site ω σ)
  | released
  | waiting

/-- The next message of a loop. Once the endpoint is tearing down there is none, whatever the queue
holds. -/
def next (site : Site ω σ) : Next ω σ :=
  if site.isTearingDown then .released
  else
    match site.take with
    | some (message, site) => .message message site
    | none => .waiting

end Site

end AgentBus
