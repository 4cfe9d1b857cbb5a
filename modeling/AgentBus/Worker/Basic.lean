import AgentBus.Mailbox.Loop

/-!
# Workers

A worker is a unit of work with an endpoint and a thread of its own. It is described by three
programs: `init` runs while the worker is prepared, `main` on its thread, and `deinit` after the
thread has ended. `main` does its opening first and then says how the thread goes on.

A `WorkerContext` is what a worker's thread owns: the mailbox, a handle of the core's endpoint, and
the policy by which the mailbox is drained at the end.
-/

namespace AgentBus

/-! ## Contexts -/

/-- What the thread of a worker owns. -/
structure WorkerContext (σ : Type) where
  mailbox : Mailbox σ
  core : EndpointId
  drain : DrainPolicy
  deriving DecidableEq

namespace WorkerContext

variable {ω σ : Type}

/-- A context with a new endpoint. It keeps the core's endpoint alive. -/
def create (net : Network ω) (name : String) (core : EndpointId) :
    WorkerContext σ × Network ω :=
  let created := net.create name
  ({ mailbox := { endpoint := created.1 }, core, drain := net.context.config.bus },
    created.2.hold core)

/-- The endpoint of the mailbox. -/
def own (context : WorkerContext σ) : EndpointId :=
  context.mailbox.endpoint

def site (context : WorkerContext σ) (net : Network ω) : Site ω σ :=
  ⟨context.mailbox, net⟩

/-- The context with the mailbox as a site left it. -/
def after (context : WorkerContext σ) (site : Site ω σ) : WorkerContext σ :=
  { context with mailbox := site.mailbox }

/-- The network when a context is gone, with its mailbox and its handle of the core. -/
def close (context : WorkerContext σ) (net : Network ω) : Network ω :=
  (net.close context.own).release context.core

end WorkerContext

/-! ## Errors -/

/-- Why a worker could not be brought up. -/
inductive WorkerError where
  | internal (reason : String)
  | notPrepared (worker : String) (cause : WorkerError)
  deriving DecidableEq

/-- The wording of each error. -/
def WorkerError.message : WorkerError → String
  | .internal reason => "Internal error: " ++ reason
  | .notPrepared worker cause =>
    "Thread error: worker '" ++ worker ++ "' failed to initialize: " ++ cause.message

/-! ## Programs of a worker -/

/-- The endpoints that a worker's programs work with. -/
structure Post where
  own : EndpointId
  core : EndpointId
  deriving DecidableEq

/-- What a worker's `init` leaves: its handlers in order, each enabled or not, and what went wrong
if anything did. -/
structure Setup (σ : Type) where
  handlers : List (σ × Bool) := []
  failure : Option WorkerError := none

/-- How a thread goes on after the opening of `main`. -/
inductive Body (ω : Type) where
  /-- It panics. -/
  | panic
  /-- It ends with an exit value. -/
  | leave (code : Int32)
  /-- It serves the mailbox up to an exit message, tears it down and drains it, and ends with an
  exit value. Meanwhile it does the jobs of a task, one after the other. -/
  | serve (task : List (BusProgram ω Unit)) (code : Int32)

/-- The request to run `finalize` on the worker's handlers; the response is how many had not
left. -/
abbrev finishSignature : Signature where
  Request := Unit
  Response := fun _ => Nat

/-- A program of a worker's `deinit`. -/
abbrev ClosingProgram (ω α : Type) := Program ((busSignature ω).sum finishSignature) α

/-- Runs `finalize` on the worker's handlers. -/
def finishHandlers {ω : Type} : ClosingProgram ω Nat :=
  .requestRight (T := finishSignature) ()

/-- A unit of work with an endpoint and a thread of its own. -/
structure Worker (ω σ : Type) where
  name : String
  init : Post → BusProgram ω (Setup σ) := fun _ => .done {}
  main : Post → BusProgram ω (Body ω) := fun _ => .done (.serve [] 0)
  deinit : Post → ClosingProgram ω Unit := fun _ => finishHandlers.bind fun _ => .done ()

namespace WorkerContext

variable {ω σ : Type}

def post (context : WorkerContext σ) : Post :=
  ⟨context.own, context.core⟩

/-- Registers handlers in order, each enabled or not. -/
def registerAll (chain : Chain σ) (handlers : List (σ × Bool)) : Chain σ :=
  handlers.foldl
    (fun chain handler =>
      let registered := chain.register handler.1
      registered.2.setEnabled registered.1 handler.2)
    chain

/-- Runs a worker's `init` and then that of the handlers it registered, which see the shared
context, even if the worker's own failed. -/
def bringUp (B : Behaviour ω σ) (worker : Worker ω σ) (context : WorkerContext σ)
    (net : Network ω) : Option WorkerError × WorkerContext σ × Network ω :=
  let setup := (worker.init context.post).run Network.perform net
  let site := context.site setup.2
  let started :=
    (site.withChain (registerAll site.mailbox.chain setup.1.handlers)).startHandlers B true
  (setup.1.failure, context.after started, started.network)

/-- How the requests of a closing program act on a mailbox. -/
def performClosing (B : Behaviour ω σ) :
    Program.Performer ((busSignature ω).sum finishSignature) (Site ω σ)
  | .inl request, site =>
    let answered := Network.perform request site.network
    (answered.1, site.withNetwork answered.2)
  | .inr _, site => site.finishHandlers B

/-- Runs a worker's `deinit`. -/
def takeDown (B : Behaviour ω σ) (worker : Worker ω σ) (context : WorkerContext σ)
    (net : Network ω) : WorkerContext σ × Network ω :=
  let finished := (worker.deinit context.post).run (performClosing B) (context.site net)
  (context.after finished.2, finished.2.network)

end WorkerContext

end AgentBus
