import AgentBus.Core.Handlers
import AgentBus.Worker.Registry

/-!
# The agent

The agent is the core, with its endpoint and its handlers, and the workers that it drives. It is
launched at one go; from then on its threads run side by side. A `Turn` says which of them acts
next, and `Agent.turn` is what it does then. Any list of turns is a possible run of the agent.

The core serves its endpoint until it gets an exit message, its endpoint is torn down, or it notices
that a shutdown was requested. Then it sends every worker an exit message, waits for their threads,
drains its own endpoint, and takes everything down.
-/

namespace AgentBus

/-- The name under which the core's endpoint is published. -/
def coreName : String := "core"

/-- How far the thread of the core has come. -/
inductive AgentPhase (ω : Type) where
  | serving (loop : Loop ω CoreHandler)
  /-- It sends exit messages to these endpoints. -/
  | dismissing (remaining : List EndpointId)
  /-- It waits for the threads of the workers. -/
  | joining
  | draining (loop : Loop ω CoreHandler)
  | finished

/-- The core and its workers, with handlers in `σ`. -/
structure Agent (ω σ : Type) where
  core : WorkerContext CoreHandler
  registry : Registry ω σ := {}
  network : Network ω
  phase : AgentPhase ω := .finished
  /-- What went wrong when the workers were brought up. -/
  failure : Option WorkerError := none

/-- Which thread acts next, and how. -/
inductive Turn where
  /-- A step of the core. -/
  | core
  /-- The core notices that a shutdown was requested. -/
  | notice
  /-- A step of the worker at a position. -/
  | worker (index : Nat)
  /-- The next job of the task of the worker at a position. -/
  | task (index : Nat)
  deriving DecidableEq

namespace Agent

variable {ω σ : Type}

/-! ## Launching -/

/-- The handlers of the core, in order. -/
def coreHandlers : List (CoreHandler × Bool) :=
  [(.ingress, true), (.operations, true), (.router, true)]

/-- An agent without workers, whose core is published but does not run yet. -/
def create (config : Config) : Agent ω σ :=
  let net : Network ω := { context := { config } }
  let created := net.create coreName
  let chain := WorkerContext.registerAll {} coreHandlers
  { core :=
      { mailbox := { endpoint := created.1, chain }, core := created.1, drain := config.bus }
    network :=
      { created.2 with context := created.2.context.apply (.publish coreName created.1) }.hold
        created.1 }

def register (agent : Agent ω σ) (worker : Worker ω σ) : Agent ω σ :=
  { agent with registry := agent.registry.register worker }

/-- Asks the core to stop. -/
def requestShutdown (agent : Agent ω σ) : Agent ω σ :=
  { agent with
    network :=
      { agent.network with context := agent.network.context.apply .requestShutdown } }

/-- The core with its network. -/
def site (agent : Agent ω σ) : Site ω CoreHandler :=
  agent.core.site agent.network

/-- The agent after the core has worked on its mailbox. -/
def after (agent : Agent ω σ) (site : Site ω CoreHandler) : Agent ω σ :=
  { agent with core := agent.core.after site, network := site.network }

/-- The phase in which the core sends every worker away. -/
def dismissal (registry : Registry ω σ) : AgentPhase ω :=
  .dismissing registry.endpoints

/-- Brings the workers up and starts their threads. If that fails, the core goes on to take down
what was brought up. -/
def launch (B : Behaviour ω σ) (agent : Agent ω σ) : Agent ω σ :=
  let ready := agent.after (agent.site.startHandlers CoreHandler.behaviour true)
  let prepared := ready.registry.prepare B ready.core.own ready.network
  match prepared.1 with
  | some error =>
    { ready with
      registry := prepared.2.1, network := prepared.2.2, failure := some error
      phase := dismissal prepared.2.1 }
  | none =>
    { ready with
      registry := prepared.2.1.start, network := prepared.2.2, phase := .serving .serving }

/-! ## Running -/

/-- Takes everything down once no thread runs any more. -/
def close (B : Behaviour ω σ) (agent : Agent ω σ) : Agent ω σ :=
  let finished := agent.after (agent.site.finishHandlers CoreHandler.behaviour).2
  let down := finished.registry.deinit B finished.network
  let withdrawn := { down.2 with context := down.2.context.apply (.withdraw coreName) }
  { finished with
    registry := {}
    network := finished.core.close (down.1.teardown withdrawn)
    phase := .finished }

/-- One step of the core, if it can make one. -/
def coreStep (B : Behaviour ω σ) (agent : Agent ω σ) : Option (Agent ω σ) :=
  match agent.phase with
  | .serving loop =>
    match loop.step CoreHandler.behaviour agent.site with
    | .working loop site => some { agent.after site with phase := .serving loop }
    | .waiting => none
    | .ended _ site => some { agent.after site with phase := dismissal agent.registry }
  | .dismissing (endpoint :: rest) =>
    some
      { agent with
        network := (agent.network.send (.ofPayload .exit) agent.core.own endpoint).2
        phase := .dismissing rest }
  | .dismissing [] => some { agent with phase := .joining }
  | .joining =>
    if agent.registry.isBusy then none
    else
      some
        { agent with
          registry := agent.registry.stop
          network := agent.network.tearDown agent.core.own
          phase := .draining (.draining agent.core.drain.idleIterations.toNat) }
  | .draining loop =>
    match loop.step CoreHandler.behaviour agent.site with
    | .working loop site => some { agent.after site with phase := .draining loop }
    | .waiting => none
    | .ended _ site => some ((agent.after site).close B)
  | .finished => none

/-- The core stops serving because of a requested shutdown. It does not notice one while it is at
work on a message. -/
def notice (agent : Agent ω σ) : Option (Agent ω σ) :=
  match agent.phase with
  | .serving ⟨.serving, .free⟩ =>
    if agent.network.context.shutdownRequested then
      some { agent with phase := dismissal agent.registry }
    else none
  | _ => none

def withWorkers (agent : Agent ω σ) (acted : Registry ω σ × Network ω) : Agent ω σ :=
  { agent with registry := acted.1, network := acted.2 }

/-- One turn of the agent, if the thread whose turn it is can act. -/
def turn (B : Behaviour ω σ) (agent : Agent ω σ) : Turn → Option (Agent ω σ)
  | .core => agent.coreStep B
  | .notice => agent.notice
  | .worker index => (agent.registry.step B index agent.network).map agent.withWorkers
  | .task index => (agent.registry.taskStep index agent.network).map agent.withWorkers

/-- Runs the agent by a list of turns. A thread that cannot act lets its turn pass. -/
def follow (B : Behaviour ω σ) (agent : Agent ω σ) (turns : List Turn) : Agent ω σ :=
  turns.foldl (fun agent turn => (agent.turn B turn).getD agent) agent

end Agent

end AgentBus
