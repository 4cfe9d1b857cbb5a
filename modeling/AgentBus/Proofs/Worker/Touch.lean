import AgentBus.Proofs.Bus.Touch
import AgentBus.Proofs.Handler.Requests
import AgentBus.Proofs.Mailbox.LoopStep
import AgentBus.Worker.Thread

/-!
# What the thread of a worker does

A thread makes the requests of its worker's `main`, of the jobs of its task and of the passes over
its chain, and else works on its own endpoint (`Thread.keeps_step`). Which requests these are is
known beforehand from the worker and its handlers (`Worker.Makes`, `Behaviour.Makes`), and a thread
keeps to them (`ThreadPhase.Makes`). `Thread.Goes` lists the steps of a thread (`Thread.goes_step`).
-/

namespace AgentBus

variable {ω σ : Type}

/-! ## Loops -/

def Work.Makes (allowed : BusRequest ω → Prop) : Work ω σ → Prop
  | .free => True
  | .taken _ => True
  | .offering _ pass => pass.Every allowed fun _ => True

namespace Loop

variable {allowed : EndpointId → BusRequest ω → Prop} {B : Behaviour ω σ}
variable {loop next : Loop ω σ} {site after : Site ω σ}

/-- A loop stays on its endpoint, does what it may, and goes on doing so. -/
structure Keeps (allowed : EndpointId → BusRequest ω → Prop) (site after : Site ω σ)
    (work : Work ω σ) : Prop where
  own : after.own = site.own
  touch : Network.Touch (allowed site.own) site.own site.network after.network
  serves : site.network.Serves site.own → after.network.Serves site.own
  work : work.Makes (allowed site.own)

theorem keeps_step (stepped : loop.step B site = .working next after) (makes : B.Makes allowed)
    (common : BusRequest.Common (allowed site.own)) (working : loop.work.Makes (allowed site.own)) :
    Keeps allowed site after next.work := by
  have goes := loop.goes_step (B := B) site
  rw [stepped] at goes
  cases goes with
  | poll => exact ⟨rfl, .nothing, id, trivial⟩
  | take _ _ _ taken => exact ⟨rfl, .take taken, fun serves => serves.take taken, trivial⟩
  | drop => exact ⟨rfl, .recordDropped, fun serves => serves.recordDropped _, trivial⟩
  | begin => exact ⟨rfl, .nothing, id, Chain.every_offer makes site.own common _ _⟩
  | ask offering =>
    rw [offering] at working
    exact ⟨rfl, Network.Touch.nothing.request working.1, fun serves => serves.perform _,
      working.2 _⟩
  | finish => exact ⟨rfl, .recordDispatched, fun serves => serves.recordDispatched _, trivial⟩

theorem keeps_ended {how : LoopEnd} (stepped : loop.step B site = .ended how after) :
    Keeps allowed site after (.free : Work ω σ) := by
  have goes := loop.goes_step (B := B) site
  rw [stepped] at goes
  cases goes with
  | exited => exact ⟨rfl, .recordDispatched, fun serves => serves.recordDispatched _, trivial⟩
  | released => exact ⟨rfl, .nothing, id, trivial⟩
  | drained => exact ⟨rfl, .nothing, id, trivial⟩

end Loop

/-! ## Workers -/

def Body.Makes (allowed : BusRequest ω → Prop) : Body ω → Prop
  | .panic => True
  | .leave _ => True
  | .serve task _ => ∀ job ∈ task, job.Every allowed fun _ => True

def ClosingProgram.Allowed (allowed : BusRequest ω → Prop) :
    ((busSignature ω).sum finishSignature).Request → Prop
  | .inl request => allowed request
  | .inr _ => True

/-- The programs of a worker make only requests that are allowed on its endpoint. -/
structure Worker.Makes (allowed : EndpointId → BusRequest ω → Prop) (worker : Worker ω σ) :
    Prop where
  init : ∀ post, (worker.init post).Every (allowed post.own) fun _ => True
  main : ∀ post, (worker.main post).Every (allowed post.own) (Body.Makes (allowed post.own))
  deinit : ∀ post,
    (worker.deinit post).Every (ClosingProgram.Allowed (allowed post.own)) fun _ => True

/-! ## Threads -/

/-- What is left of a thread makes only these requests. -/
def ThreadPhase.Makes (allowed : BusRequest ω → Prop) : ThreadPhase ω σ → Prop
  | .opening main => main.Every allowed (Body.Makes allowed)
  | .looping loop task _ => loop.work.Makes allowed ∧ ∀ job ∈ task, job.Every allowed fun _ => True
  | .leaving _ => True
  | .returned _ => True
  | .panicked => True

theorem Body.makes_anything (body : Body ω) : body.Makes fun _ => True := by
  cases body with
  | panic => trivial
  | leave code => trivial
  | serve task code =>
    exact fun job _ => Program.every_of_all (fun _ => trivial) (fun _ => trivial) job

theorem Work.makes_anything (work : Work ω σ) : work.Makes fun _ => True := by
  cases work with
  | free => trivial
  | taken message => trivial
  | offering message pass => exact pass.every_of_all (fun _ => trivial) fun _ => trivial

theorem ThreadPhase.makes_anything (phase : ThreadPhase ω σ) : phase.Makes fun _ => True := by
  cases phase with
  | opening main => exact main.every_of_all (fun _ => trivial) Body.makes_anything
  | looping loop task code =>
    exact ⟨loop.work.makes_anything,
      fun job _ => job.every_of_all (fun _ => trivial) fun _ => trivial⟩
  | leaving code => trivial
  | returned code => trivial
  | panicked => trivial

namespace Thread

variable {allowed : EndpointId → BusRequest ω → Prop} {B : Behaviour ω σ}
variable {thread after : Thread ω σ} {net net' : Network ω}

def own (thread : Thread ω σ) : EndpointId :=
  thread.context.own

/-- A thread that is past its opening and has not ended. -/
def isAtWork (thread : Thread ω σ) : Bool :=
  match thread.phase with
  | .looping _ _ _ | .leaving _ => true
  | _ => false

/-- A thread panics in the middle of its work. Its context goes with it. -/
def crash (thread : Thread ω σ) (net : Network ω) : Option (Thread ω σ × Network ω) :=
  if thread.isAtWork then some (thread.moveTo .panicked, thread.context.close net) else none

/-! ### Steps -/

/-- What a step of a thread does, case by case. -/
inductive Goes (B : Behaviour ω σ) (worker : Worker ω σ) (context : WorkerContext σ)
    (net : Network ω) : ThreadPhase ω σ → Thread ω σ → Network ω → Prop where
  | ask {request : BusRequest ω} {next : request.Response → BusProgram ω (Body ω)} :
      Goes B worker context net (.opening (.ask request next))
        ⟨worker, context, .opening (next (Network.perform request net).1)⟩
        (Network.perform request net).2
  | panic : Goes B worker context net (.opening (.done .panic)) ⟨worker, context, .panicked⟩
      (context.close net)
  | skip {code : Int32} :
      Goes B worker context net (.opening (.done (.leave code))) ⟨worker, context, .returned code⟩
        net
  | serve {task : List (BusProgram ω Unit)} {code : Int32} :
      Goes B worker context net (.opening (.done (.serve task code)))
        ⟨worker, context, .looping .serving task code⟩ net
  | loop {loop next : Loop ω σ} {task : List (BusProgram ω Unit)} {code : Int32}
      {site : Site ω σ} : loop.step B (context.site net) = .working next site →
      Goes B worker context net (.looping loop task code)
        ⟨worker, context.after site, .looping next task code⟩ site.network
  | ended {loop : Loop ω σ} {task : List (BusProgram ω Unit)} {code : Int32} {how : LoopEnd}
      {site : Site ω σ} : loop.step B (context.site net) = .ended how site →
      Goes B worker context net (.looping loop task code)
        ⟨worker, context.after site, afterLoop code how⟩ site.network
  | leave {code : Int32} :
      Goes B worker context net (.leaving code)
        ⟨worker, context, .looping (.draining context.drain.idleIterations.toNat) [] code⟩
        (net.tearDown context.own)

theorem goes_step {worker : Worker ω σ} {context : WorkerContext σ} {phase : ThreadPhase ω σ}
    (stepped : step B ⟨worker, context, phase⟩ net = some (after, net')) :
    Goes B worker context net phase after net' := by
  cases phase with
  | opening main =>
    cases main with
    | ask request next =>
      obtain ⟨rfl, rfl⟩ := Prod.mk.inj (Option.some.inj stepped)
      exact .ask
    | done body =>
      obtain ⟨rfl, rfl⟩ := Prod.mk.inj (Option.some.inj stepped)
      cases body with
      | panic => exact .panic
      | leave code => exact .skip
      | serve task code => exact .serve
  | looping loop task code =>
    simp only [step] at stepped
    split at stepped
    · next looped =>
      obtain ⟨rfl, rfl⟩ := Prod.mk.inj (Option.some.inj stepped)
      exact .loop looped
    · contradiction
    · next looped =>
      obtain ⟨rfl, rfl⟩ := Prod.mk.inj (Option.some.inj stepped)
      exact .ended looped
  | leaving code =>
    obtain ⟨rfl, rfl⟩ := Prod.mk.inj (Option.some.inj stepped)
    exact .leave
  | returned code => contradiction
  | panicked => contradiction

theorem taskStep_eq_some (stepped : thread.taskStep net = some (after, net')) :
    ∃ job rest code, thread.phase = .looping .serving (job :: rest) code ∧
      after = thread.moveTo (.looping .serving rest code) ∧
      net' = (job.run Network.perform net).2 := by
  unfold taskStep at stepped
  split at stepped
  · next job rest code serving =>
    obtain ⟨rfl, rfl⟩ := Prod.mk.inj (Option.some.inj stepped)
    exact ⟨job, rest, code, serving, rfl, rfl⟩
  · contradiction

theorem crash_eq_some (stepped : thread.crash net = some (after, net')) :
    thread.isAtWork = true ∧ after = thread.moveTo .panicked ∧ net' = thread.context.close net := by
  unfold crash at stepped
  split at stepped
  · next working =>
    obtain ⟨rfl, rfl⟩ := Prod.mk.inj (Option.some.inj stepped)
    exact ⟨working, rfl, rfl⟩
  · contradiction

/-! ### What a thread keeps -/

/-- A thread stays with its worker and on its endpoint, does what it may, and goes on doing so. -/
structure Keeps (allowed : EndpointId → BusRequest ω → Prop) (thread after : Thread ω σ)
    (net net' : Network ω) : Prop where
  worker : after.worker = thread.worker
  own : after.own = thread.own
  core : after.context.core = thread.context.core
  touch : Network.Touch (allowed thread.own) thread.own net net'
  serves : after.phase ≠ .panicked → net.Serves thread.own → net'.Serves thread.own
  phase : after.phase.Makes (allowed thread.own)

theorem keeps_step (makes : B.Makes allowed) (common : BusRequest.Common (allowed thread.own))
    (phase : thread.phase.Makes (allowed thread.own))
    (stepped : thread.step B net = some (after, net')) : Keeps allowed thread after net net' := by
  obtain ⟨worker, context, before⟩ := thread
  cases goes_step stepped with
  | ask =>
    exact ⟨rfl, rfl, rfl, Network.Touch.nothing.request phase.1, fun _ serves => serves.perform _,
      phase.2 _⟩
  | panic => exact ⟨rfl, rfl, rfl, .handles .close, fun going => absurd rfl going, trivial⟩
  | skip => exact ⟨rfl, rfl, rfl, .nothing, fun _ => id, trivial⟩
  | serve => exact ⟨rfl, rfl, rfl, .nothing, fun _ => id, trivial, phase⟩
  | loop looped =>
    have kept := Loop.keeps_step looped makes common phase.1
    exact ⟨rfl, kept.own, rfl, kept.touch, fun _ => kept.serves, kept.work, phase.2⟩
  | @ended loop task code how site looped =>
    have kept : Loop.Keeps allowed _ _ _ := Loop.keeps_ended looped
    refine ⟨rfl, kept.own, rfl, kept.touch, fun _ => kept.serves, ?_⟩
    cases how <;> trivial
  | leave =>
    exact ⟨rfl, rfl, rfl, .tearDown, fun _ serves => (Network.Spares.tearDown _).serves serves,
      trivial, nofun⟩

theorem keeps_taskStep (phase : thread.phase.Makes (allowed thread.own))
    (stepped : thread.taskStep net = some (after, net')) : Keeps allowed thread after net net' := by
  obtain ⟨job, rest, code, serving, rfl, rfl⟩ := taskStep_eq_some stepped
  rw [serving] at phase
  have jobs := List.forall_mem_cons.mp phase.2
  exact ⟨rfl, rfl, rfl, .run jobs.1, fun _ serves => (Network.Spares.run job).serves serves,
    trivial, jobs.2⟩

theorem keeps_crash (stepped : thread.crash net = some (after, net')) :
    Keeps allowed thread after net net' := by
  obtain ⟨-, rfl, rfl⟩ := crash_eq_some stepped
  exact ⟨rfl, rfl, rfl, .handles .close, fun going => absurd rfl going, trivial⟩

/-! ### Jobs -/

theorem context_addJob (job : Post → BusProgram ω Unit) (thread : Thread ω σ) :
    (thread.addJob job).context = thread.context := by
  unfold addJob
  split <;> rfl

theorem worker_addJob (job : Post → BusProgram ω Unit) (thread : Thread ω σ) :
    (thread.addJob job).worker = thread.worker := by
  unfold addJob
  split <;> rfl

theorem makes_addJob {allowed : BusRequest ω → Prop} {job : Post → BusProgram ω Unit}
    (fine : ∀ post, (job post).Every allowed fun _ => True) (phase : thread.phase.Makes allowed) :
    (thread.addJob job).phase.Makes allowed := by
  unfold addJob
  split
  · next work task code serving =>
    rw [serving] at phase
    refine ⟨phase.1, fun job' member => ?_⟩
    rcases List.mem_append.mp member with earlier | new
    · exact phase.2 job' earlier
    · rw [List.mem_singleton.mp new]
      exact fine _
  · exact phase

/-! ### What a thread stands on -/

def isDraining (thread : Thread ω σ) : Bool :=
  match thread.phase with
  | .looping loop _ _ => !loop.mode.isServing
  | _ => false

/-- A thread has its mailbox unless it panicked, and it only drains an endpoint that is torn
down. -/
structure Stands (net : Network ω) (thread : Thread ω σ) : Prop where
  serves : thread.phase ≠ .panicked → net.Serves thread.own
  down : thread.isDraining = true → net.isTearingDown thread.own = true

theorem Stands.spared (stands : thread.Stands net) (spares : Network.Spares thread.own net net') :
    thread.Stands net' :=
  ⟨fun going => spares.serves (stands.serves going),
    fun draining => spares.isTearingDown (stands.down draining)⟩

/-- A thread begins to drain when it has torn its endpoint down. -/
theorem isDraining_step (stepped : thread.step B net = some (after, net'))
    (draining : after.isDraining = true) :
    thread.isDraining = true ∨ net' = net.tearDown thread.own := by
  obtain ⟨worker, context, phase⟩ := thread
  cases goes_step stepped with
  | ask | panic | skip | serve => contradiction
  | loop looped =>
    have same := Loop.isServing_step looped
    left
    simpa [isDraining, same] using draining
  | @ended loop task code how => cases how <;> contradiction
  | leave => exact .inr rfl

theorem isDraining_taskStep (stepped : thread.taskStep net = some (after, net')) :
    after.isDraining = false := by
  obtain ⟨job, rest, code, -, rfl, -⟩ := taskStep_eq_some stepped
  rfl

theorem phase_crash (stepped : thread.crash net = some (after, net')) :
    after.phase = .panicked := by
  obtain ⟨-, rfl, -⟩ := crash_eq_some stepped
  rfl

end Thread

end AgentBus
