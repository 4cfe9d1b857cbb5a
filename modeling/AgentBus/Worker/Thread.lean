import AgentBus.Worker.Basic

/-!
# Threads

A thread runs a worker's `main`. `Thread.step` is one step of it, between which other threads may
run; `Thread.taskStep` does the next job of the task beside its loop. A thread cannot step while
its loop waits for a message, nor once it has ended.
-/

namespace AgentBus

/-- How far a thread has come. -/
inductive ThreadPhase (ω σ : Type) where
  /-- It does the opening of `main`. -/
  | opening (main : BusProgram ω (Body ω))
  /-- It serves or drains the mailbox; this is left of the task, and that is the exit value. -/
  | looping (loop : Loop ω σ) (task : List (BusProgram ω Unit)) (code : Int32)
  /-- It has stopped serving, and is about to tear the endpoint down. -/
  | leaving (code : Int32)
  | returned (code : Int32)
  /-- It has panicked, and its context is gone. -/
  | panicked

/-- A worker on its thread. -/
structure Thread (ω σ : Type) where
  worker : Worker ω σ
  context : WorkerContext σ
  phase : ThreadPhase ω σ

namespace Thread

variable {ω σ : Type}

/-- A thread that has not done anything yet. -/
def spawn (worker : Worker ω σ) (context : WorkerContext σ) : Thread ω σ :=
  { worker, context, phase := .opening (worker.main context.post) }

def hasEnded (thread : Thread ω σ) : Bool :=
  match thread.phase with
  | .returned _ | .panicked => true
  | _ => false

def moveTo (thread : Thread ω σ) (phase : ThreadPhase ω σ) : Thread ω σ :=
  { thread with phase }

/-- The number of empty polls in a row after which the thread's drain ends. -/
def drainLimit (thread : Thread ω σ) : Nat :=
  thread.context.drain.idleIterations.toNat

/-- What a thread goes on with after its opening. -/
def begin (thread : Thread ω σ) (net : Network ω) : Body ω → Thread ω σ × Network ω
  | .panic => (thread.moveTo .panicked, thread.context.close net)
  | .leave code => (thread.moveTo (.returned code), net)
  | .serve task code => (thread.moveTo (.looping .serving task code), net)

/-- The phase after the end of a loop: a drain is the last thing that a thread does. -/
def afterLoop (code : Int32) : LoopEnd → ThreadPhase ω σ
  | .drained _ => .returned code
  | .exited | .released => .leaving code

/-- One step of a thread, if it can make one. -/
def step (B : Behaviour ω σ) (thread : Thread ω σ) (net : Network ω) :
    Option (Thread ω σ × Network ω) :=
  match thread.phase with
  | .opening (.ask request next) =>
    let answered := Network.perform request net
    some (thread.moveTo (.opening (next answered.1)), answered.2)
  | .opening (.done body) => some (thread.begin net body)
  | .looping loop task code =>
    match loop.step B (thread.context.site net) with
    | .working loop site =>
      some ({ thread with
        context := thread.context.after site, phase := .looping loop task code }, site.network)
    | .waiting => none
    | .ended how site =>
      some ({ thread with
        context := thread.context.after site, phase := afterLoop code how }, site.network)
  | .leaving code =>
    some (thread.moveTo (.looping (.draining thread.drainLimit) [] code),
      net.tearDown thread.context.own)
  | .returned _ => none
  | .panicked => none

/-- Does the next job of the task at one go. The thread does no job while it is at work on a
message. -/
def taskStep (thread : Thread ω σ) (net : Network ω) : Option (Thread ω σ × Network ω) :=
  match thread.phase with
  | .looping ⟨.serving, .free⟩ (job :: rest) code =>
    some (thread.moveTo (.looping .serving rest code), (job.run Network.perform net).2)
  | _ => none

/-- Adds a job to the end of the task, unless the thread has left its loop. -/
def addJob (job : Post → BusProgram ω Unit) (thread : Thread ω σ) : Thread ω σ :=
  match thread.phase with
  | .looping ⟨.serving, work⟩ task code =>
    thread.moveTo (.looping ⟨.serving, work⟩ (task ++ [job thread.context.post]) code)
  | _ => thread

/-- Runs a thread without a pause for up to `fuel` steps, until it can neither step nor do a job. -/
def run (B : Behaviour ω σ) : Nat → Thread ω σ → Network ω → Thread ω σ × Network ω
  | 0, thread, net => (thread, net)
  | fuel + 1, thread, net =>
    match thread.step B net with
    | some (thread, net) => run B fuel thread net
    | none =>
      match thread.taskStep net with
      | some (thread, net) => run B fuel thread net
      | none => (thread, net)

/-- A thread in the middle of `main`: it is about to serve. -/
def serving (context : WorkerContext σ) (task : List (BusProgram ω Unit)) : Thread ω σ :=
  { worker := { name := "" }, context, phase := .looping .serving task 0 }

end Thread

/-! ## Loops of a context -/

namespace WorkerContext

variable {ω σ : Type}

/-- Serves the mailbox up to an exit message, tears it down and drains it, without a pause. Tells
whether that came to its end; otherwise the loop waits for messages. -/
def runLoop (B : Behaviour ω σ) (fuel : Nat) (task : List (BusProgram ω Unit))
    (context : WorkerContext σ) (net : Network ω) : Bool × WorkerContext σ × Network ω :=
  let ran := (Thread.serving context task).run B fuel net
  (ran.1.hasEnded, ran.1.context, ran.2)

/-- Serves the mailbox without a pause. -/
def serve (B : Behaviour ω σ) (fuel : Nat) (context : WorkerContext σ) (net : Network ω) :
    Loop.Pause ω σ :=
  Loop.serving.run B fuel (context.site net)

/-- Tears the endpoint down and drains the mailbox. -/
def tearDownAndDrain (B : Behaviour ω σ) (fuel : Nat) (context : WorkerContext σ)
    (net : Network ω) : Loop.Pause ω σ :=
  (Loop.draining context.drain.idleIterations.toNat).run B fuel (context.site net).tearDown

end WorkerContext

end AgentBus
