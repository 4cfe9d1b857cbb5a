import AgentBus.Worker.Thread

/-!
# The registry of workers

The registry takes workers through their lives: registered, prepared, running, stopped and
deinitialized. Every operation walks the workers in the order of their registration, and only
touches those in the state that it expects.
-/

namespace AgentBus

/-- Where a worker stands in its life. -/
inductive WorkerState where
  | registered
  | prepared
  | running
  | stopped
  | deinitialized
  deriving DecidableEq

def WorkerState.text : WorkerState → String
  | .registered => "registered"
  | .prepared => "prepared"
  | .running => "running"
  | .stopped => "stopped"
  | .deinitialized => "deinitialized"

/-- A registered worker with what belongs to it in its state. -/
structure Slot (ω σ : Type) where
  name : String
  state : WorkerState := .registered
  worker : Option (Worker ω σ)
  context : Option (WorkerContext σ) := none
  endpoint : Option EndpointId := none
  thread : Option (Thread ω σ) := none
  exitValue : Option Int32 := none

namespace Slot

variable {ω σ : Type}

/-- The slot of a worker that was just registered. -/
def ofWorker (worker : Worker ω σ) : Slot ω σ :=
  { name := worker.name, worker := some worker }

/-! ## Preparing -/

/-- Gives a worker its endpoint, publishes it under the worker's name, and brings the worker up. The
worker counts as prepared also when that failed. -/
def prepareWorker (B : Behaviour ω σ) (core : EndpointId) (slot : Slot ω σ)
    (worker : Worker ω σ) (net : Network ω) : Option WorkerError × Slot ω σ × Network ω :=
  let created := WorkerContext.create net slot.name core
  let own := created.1.own
  let published :=
    { created.2 with context := created.2.context.apply (.publish slot.name own) }.hold own
  let started := created.1.bringUp B worker published
  (started.1.map (WorkerError.notPrepared slot.name),
    { slot with
      state := .prepared, context := some started.2.1, endpoint := some own },
    started.2.2)

/-- Prepares a registered worker. -/
def prepare (B : Behaviour ω σ) (core : EndpointId) (slot : Slot ω σ) (net : Network ω) :
    Option WorkerError × Slot ω σ × Network ω :=
  match slot.state, slot.worker with
  | .registered, some worker => slot.prepareWorker B core worker net
  | _, _ => (none, slot, net)

/-! ## Running -/

/-- Starts the thread of a prepared worker. -/
def start (slot : Slot ω σ) : Slot ω σ :=
  match slot.state, slot.worker, slot.context with
  | .prepared, some worker, some context =>
    { slot with
      state := .running, worker := none, context := none
      thread := some (.spawn worker context) }
  | _, _, _ => slot

/-- Whether the slot has a thread that still runs. -/
def isBusy (slot : Slot ω σ) : Bool :=
  slot.thread.any fun thread => !thread.hasEnded

/-- Takes over what a thread that has ended leaves behind. After a panic that is nothing. -/
def join (slot : Slot ω σ) : Slot ω σ :=
  match slot.thread with
  | none => slot
  | some thread =>
    match thread.phase with
    | .returned code =>
      { slot with
        state := .stopped, worker := some thread.worker, context := some thread.context
        thread := none, exitValue := some code }
    | .panicked => { slot with state := .stopped, thread := none }
    | _ => slot

/-! ## Deinitializing -/

/-- Runs the worker's `deinit`, if the worker and its context are still there. -/
def takeDownWorker (B : Behaviour ω σ) (slot : Slot ω σ) (net : Network ω) :
    Slot ω σ × Network ω :=
  match slot.worker, slot.context with
  | some worker, some context =>
    let down := context.takeDown B worker net
    ({ slot with context := some down.1 }, down.2)
  | _, _ => (slot, net)

/-- Tears a worker's endpoint down, withdraws the worker's name, and gives the handle up. -/
def withdraw (slot : Slot ω σ) (net : Network ω) : Slot ω σ × Network ω :=
  match slot.endpoint with
  | none => (slot, net)
  | some own =>
    let down := net.tearDown own
    let withdrawn := { down with context := down.context.apply (.withdraw slot.name) }
    ({ slot with endpoint := none }, withdrawn.release own)

/-- Gives the context up. -/
def dropContext (slot : Slot ω σ) (net : Network ω) : Slot ω σ × Network ω :=
  match slot.context with
  | none => (slot, net)
  | some context => ({ slot with context := none }, context.close net)

/-- Releases everything that belongs to a prepared or stopped worker. -/
def deinit (B : Behaviour ω σ) (slot : Slot ω σ) (net : Network ω) : Slot ω σ × Network ω :=
  if slot.state = .prepared ∨ slot.state = .stopped then
    let down := slot.takeDownWorker B net
    let withdrawn := down.1.withdraw down.2
    let dropped := withdrawn.1.dropContext withdrawn.2
    ({ dropped.1 with state := .deinitialized }, dropped.2)
  else (slot, net)

/-- Lets a slot go with everything in it. -/
def discard (slot : Slot ω σ) (net : Network ω) : Network ω :=
  let dropped := slot.dropContext net
  match slot.endpoint with
  | none => dropped.2
  | some own => dropped.2.release own

end Slot

/-- The registered workers, in order. -/
structure Registry (ω σ : Type) where
  slots : List (Slot ω σ) := []

namespace Registry

variable {ω σ : Type}

def register (registry : Registry ω σ) (worker : Worker ω σ) : Registry ω σ :=
  ⟨registry.slots ++ [.ofWorker worker]⟩

/-- The first worker of a name. -/
def slot? (registry : Registry ω σ) (name : String) : Option (Slot ω σ) :=
  registry.slots.find? fun slot => slot.name = name

/-- The endpoints of the workers that were prepared. -/
def endpoints (registry : Registry ω σ) : List EndpointId :=
  registry.slots.filterMap Slot.endpoint

/-- Prepares workers in order, up to the first that fails. -/
def prepareSlots (B : Behaviour ω σ) (core : EndpointId) :
    List (Slot ω σ) → Network ω → Option WorkerError × List (Slot ω σ) × Network ω
  | [], net => (none, [], net)
  | slot :: rest, net =>
    let prepared := slot.prepare B core net
    match prepared.1 with
    | some error => (some error, prepared.2.1 :: rest, prepared.2.2)
    | none =>
      let others := prepareSlots B core rest prepared.2.2
      (others.1, prepared.2.1 :: others.2.1, others.2.2)

/-- Prepares the registered workers. -/
def prepare (B : Behaviour ω σ) (core : EndpointId) (registry : Registry ω σ)
    (net : Network ω) : Option WorkerError × Registry ω σ × Network ω :=
  let prepared := prepareSlots B core registry.slots net
  (prepared.1, ⟨prepared.2.1⟩, prepared.2.2)

/-- Starts the prepared workers. -/
def start (registry : Registry ω σ) : Registry ω σ :=
  ⟨registry.slots.map Slot.start⟩

/-- Whether a thread still runs. -/
def isBusy (registry : Registry ω σ) : Bool :=
  registry.slots.any Slot.isBusy

/-- Takes over what the threads leave behind. A thread that still runs has to be waited for. -/
def stop (registry : Registry ω σ) : Registry ω σ :=
  ⟨registry.slots.map Slot.join⟩

/-- Takes slots down in order. -/
def deinitSlots (B : Behaviour ω σ) :
    List (Slot ω σ) → Network ω → List (Slot ω σ) × Network ω
  | [], net => ([], net)
  | slot :: rest, net =>
    let down := slot.deinit B net
    let others := deinitSlots B rest down.2
    (down.1 :: others.1, others.2)

/-- Releases the prepared and the stopped workers. -/
def deinit (B : Behaviour ω σ) (registry : Registry ω σ) (net : Network ω) :
    Registry ω σ × Network ω :=
  let down := deinitSlots B registry.slots net
  (⟨down.1⟩, down.2)

/-- Lets the registry go with everything that it still holds. -/
def teardown (registry : Registry ω σ) (net : Network ω) : Network ω :=
  registry.slots.foldl (fun net slot => slot.discard net) net

/-! ## Threads -/

/-- Lets the thread at a position act. -/
def act (act : Thread ω σ → Network ω → Option (Thread ω σ × Network ω)) (index : Nat)
    (registry : Registry ω σ) (net : Network ω) : Option (Registry ω σ × Network ω) :=
  (registry.slots[index]?).bind fun slot =>
    slot.thread.bind fun thread =>
      (act thread net).map fun acted =>
        (⟨registry.slots.set index { slot with thread := some acted.1 }⟩, acted.2)

/-- One step of the thread at a position. -/
def step (B : Behaviour ω σ) (index : Nat) (registry : Registry ω σ) (net : Network ω) :
    Option (Registry ω σ × Network ω) :=
  registry.act (Thread.step B) index net

/-- One job of the task of the thread at a position. -/
def taskStep (index : Nat) (registry : Registry ω σ) (net : Network ω) :
    Option (Registry ω σ × Network ω) :=
  registry.act Thread.taskStep index net

/-- Adds a job to the tasks of the workers of a name. -/
def addJob (name : String) (job : Post → BusProgram ω Unit) (registry : Registry ω σ) :
    Registry ω σ :=
  ⟨registry.slots.map fun slot =>
    if slot.name = name then { slot with thread := slot.thread.map (Thread.addJob job) }
    else slot⟩

/-- Runs the threads of slots one after the other, each as far as it goes without a pause. -/
def runSlots (B : Behaviour ω σ) (fuel : Nat) :
    List (Slot ω σ) → Network ω → List (Slot ω σ) × Network ω
  | [], net => ([], net)
  | slot :: rest, net =>
    match slot.thread with
    | none =>
      let others := runSlots B fuel rest net
      (slot :: others.1, others.2)
    | some thread =>
      let ran := thread.run B fuel net
      let others := runSlots B fuel rest ran.2
      ({ slot with thread := some ran.1 } :: others.1, others.2)

/-- Runs all threads, one after the other. -/
def runThreads (B : Behaviour ω σ) (fuel : Nat) (registry : Registry ω σ) (net : Network ω) :
    Registry ω σ × Network ω :=
  let ran := runSlots B fuel registry.slots net
  (⟨ran.1⟩, ran.2)

end Registry

end AgentBus
