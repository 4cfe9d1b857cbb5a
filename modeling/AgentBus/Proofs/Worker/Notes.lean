import AgentBus.Proofs.Program.Notes
import AgentBus.Proofs.Worker.Touch
import AgentBus.Worker.Registry

/-!
# Workers with notebooks

`Worker.noting` gives a worker a notebook, in which it notes that its `init`, its `main` or its
`deinit` was called. What stands in the notebooks can be read off the output of the network
(`Network.notes`). All else that workers, handlers and loops do is `Quiet`: it asks for no notes,
and so it leaves them as they are (`Network.Touch.notes`).
-/

namespace AgentBus

variable {ω ν σ : Type}

/-! ## Notes on a network -/

inductive WorkerCall where
  | init
  | main
  | deinit
  deriving DecidableEq

/-- A call of the worker with a number. -/
structure WorkerNote where
  worker : Nat
  call : WorkerCall
  deriving DecidableEq

namespace Network

/-- The notes among all that was written to the outside, in order. -/
def notes (net : Network (ω ⊕ ν)) : List ν :=
  net.output.toList.filterMap Sum.getRight?

theorem notes_send (net : Network (ω ⊕ ν)) (message : Message) (source destination : EndpointId) :
    (net.send message source destination).2.notes = net.notes := by
  by_cases takes : net.Accepts destination
  · rw [send_of_accepts takes]
    rfl
  · rw [send_of_not_accepts takes]
    rfl

theorem notes_perform_emit_note (net : Network (ω ⊕ ν)) (note : ν) :
    (perform (.emit (.inr note)) net).2.notes = net.notes ++ [note] := by
  simp [perform, notes]

end Network

/-! ## Quiet programs -/

/-- A request that is no note. -/
def BusRequest.Quiet : BusRequest (ω ⊕ ν) → Prop
  | .emit (.inr _) => False
  | _ => True

theorem Network.notes_perform {request : BusRequest (ω ⊕ ν)} (quiet : request.Quiet)
    (net : Network (ω ⊕ ν)) : (perform request net).2.notes = net.notes := by
  cases request with
  | send message source destination => exact notes_send net message source destination
  | emit output =>
    cases output with
    | inl output => simp [perform, notes]
    | inr note => exact quiet.elim
  | look => rfl
  | tearDown => rfl
  | context => rfl
  | change => rfl

theorem Network.Touch.notes {net net' : Network (ω ⊕ ν)} {own : EndpointId}
    (touch : Touch BusRequest.Quiet own net net') : net'.notes = net.notes := by
  induction touch with
  | nothing => rfl
  | request _ quiet ih => exact (notes_perform quiet _).trans ih
  | update _ _ _ ih => exact ih
  | handles _ ih => exact ih

theorem BusRequest.common_quiet : BusRequest.Common (BusRequest.Quiet (ω := ω) (ν := ν)) :=
  ⟨fun _ => trivial, fun _ _ _ => trivial⟩

namespace BusProgram

variable {α β : Type}

/-- A program that takes no notes. -/
def Quiet (program : BusProgram (ω ⊕ ν) α) : Prop :=
  program.Every BusRequest.Quiet fun _ => True

theorem notes_run {fine : α → Prop} {program : BusProgram (ω ⊕ ν) α}
    (quiet : program.Every BusRequest.Quiet fine) (net : Network (ω ⊕ ν)) :
    (program.run Network.perform net).2.notes = net.notes :=
  have touch : Network.Touch BusRequest.Quiet ⟨0⟩ net _ := .run quiet
  touch.notes

theorem quiet_widened (request : BusRequest ω) :
    (request.widened (ν := ν)).Every BusRequest.Quiet fun _ => True := by
  cases request <;> exact ⟨trivial, fun _ => trivial⟩

theorem quiet_widen (program : BusProgram ω α) : Quiet (program.widen (ν := ν)) :=
  Program.every_interpret quiet_widened program

end BusProgram

/-! ## Quiet handlers -/

namespace HandlerProgram

variable {α β : Type}

/-- Changes of the chain are no notes. -/
def QuietRequest : (handlerSignature (ω ⊕ ν)).Request → Prop
  | .inl request => BusRequest.Quiet request
  | .inr _ => True

def Quiet (program : HandlerProgram (ω ⊕ ν) α) : Prop :=
  program.Every QuietRequest fun _ => True

theorem allowed_quiet :
    (Allowed BusRequest.Quiet : (handlerSignature (ω ⊕ ν)).Request → Prop) = QuietRequest := by
  funext request
  cases request <;> rfl

def widenedRequest : (request : (handlerSignature ω).Request) →
    HandlerProgram (ω ⊕ ν) ((handlerSignature ω).Response request)
  | .inl request => (BusRequest.widened request).left
  | .inr change => change.ask

def widen (program : HandlerProgram ω α) : HandlerProgram (ω ⊕ ν) α :=
  Program.interpret widenedRequest program

theorem quiet_widen (program : HandlerProgram ω α) : Quiet (program.widen (ν := ν)) := by
  apply Program.every_interpret
  rintro (request | change)
  · rw [← allowed_quiet]
    exact every_left (BusProgram.quiet_widened request)
  · exact ⟨trivial, fun _ => trivial⟩

end HandlerProgram

namespace Behaviour

structure Quiet (B : Behaviour (ω ⊕ ν) σ) : Prop where
  init : ∀ scope handler, (B.init scope handler).Quiet
  handle : ∀ scope handler message, (B.handle scope handler message).Quiet
  finalize : ∀ scope handler, (B.finalize scope handler).Quiet

def widen (B : Behaviour ω σ) : Behaviour (ω ⊕ ν) σ where
  name := B.name
  init scope handler := (B.init scope handler).widen
  handle scope handler message := (B.handle scope handler message).widen
  finalize scope handler := (B.finalize scope handler).widen

theorem quiet_widen (B : Behaviour ω σ) : (B.widen (ν := ν)).Quiet where
  init _ _ := HandlerProgram.quiet_widen _
  handle _ _ _ := HandlerProgram.quiet_widen _
  finalize _ _ := HandlerProgram.quiet_widen _

end Behaviour

theorem Behaviour.Quiet.makes {B : Behaviour (ω ⊕ ν) σ} (quiet : B.Quiet) :
    B.Makes fun _ => BusRequest.Quiet where
  init scope handler := by
    rw [HandlerProgram.allowed_quiet]
    exact quiet.init scope handler
  handle scope handler message := by
    rw [HandlerProgram.allowed_quiet]
    exact quiet.handle scope handler message
  finalize scope handler := by
    rw [HandlerProgram.allowed_quiet]
    exact quiet.finalize scope handler

/-! ## Quiet loops -/

/-- A loop that takes no notes while it offers its message. -/
def Work.Quiet : Work (ω ⊕ ν) σ → Prop
  | .free => True
  | .taken _ => True
  | .offering _ pass => pass.Quiet

theorem Loop.notes_of_ended {B : Behaviour (ω ⊕ ν) σ} {loop : Loop (ω ⊕ ν) σ} {how : LoopEnd}
    {site after : Site (ω ⊕ ν) σ} (stepped : loop.step B site = .ended how after) :
    after.network.notes = site.network.notes :=
  have kept : Loop.Keeps (fun _ => BusRequest.Quiet) site after .free := Loop.keeps_ended stepped
  kept.touch.notes

/-! ## Workers -/

def Body.Quiet : Body (ω ⊕ ν) → Prop
  | .panic => True
  | .leave _ => True
  | .serve task _ => ∀ job ∈ task, BusProgram.Quiet job

def Body.widen : Body ω → Body (ω ⊕ ν)
  | .panic => .panic
  | .leave code => .leave code
  | .serve task code => .serve (task.map BusProgram.widen) code

theorem Body.quiet_widen (body : Body ω) : (body.widen (ν := ν)).Quiet := by
  cases body with
  | panic => trivial
  | leave code => trivial
  | serve task code =>
    intro job member
    obtain ⟨plain, _, rfl⟩ := List.mem_map.mp member
    exact BusProgram.quiet_widen plain

namespace ClosingProgram

variable {α : Type}

def QuietRequest : ((busSignature (ω ⊕ ν)).sum finishSignature).Request → Prop
  | .inl request => BusRequest.Quiet request
  | .inr _ => True

def widenedRequest : (request : ((busSignature ω).sum finishSignature).Request) →
    ClosingProgram (ω ⊕ ν) (((busSignature ω).sum finishSignature).Response request)
  | .inl request => (BusRequest.widened request).left
  | .inr _ => finishHandlers

def widen (program : ClosingProgram ω α) : ClosingProgram (ω ⊕ ν) α :=
  Program.interpret widenedRequest program

theorem quiet_widen (program : ClosingProgram ω α) :
    (program.widen (ν := ν)).Every QuietRequest fun _ => True := by
  apply Program.every_interpret
  rintro (request | request)
  · cases request <;> exact ⟨trivial, fun _ => trivial⟩
  · exact ⟨trivial, fun _ => trivial⟩

theorem notes_run {B : Behaviour (ω ⊕ ν) σ} (quiet : B.Quiet) {program : ClosingProgram (ω ⊕ ν) α}
    (quietProgram : program.Every QuietRequest fun _ => True) (site : Site (ω ⊕ ν) σ) :
    (program.run (WorkerContext.performClosing B) site).2.network.notes = site.network.notes := by
  induction program generalizing site with
  | done result => rfl
  | ask request next ih =>
    rw [Program.run, ih _ (quietProgram.2 _)]
    cases request with
    | inl request => exact Network.notes_perform quietProgram.1 _
    | inr request => exact BusProgram.notes_run (Chain.every_finishAll quiet.makes _ _) _

end ClosingProgram

namespace Worker

def widenedMain (worker : Worker ω σ) (post : Post) : BusProgram (ω ⊕ ν) (Body (ω ⊕ ν)) :=
  (worker.main post).widen.bind fun body => .done body.widen

/-- The worker with a notebook, in which it is known by a number. -/
def noting (number : Nat) (worker : Worker ω σ) : Worker (ω ⊕ WorkerNote) σ where
  name := worker.name
  init post :=
    (BusProgram.note ⟨number, .init⟩).bind fun _ => (worker.init post).widen
  main post :=
    (BusProgram.note ⟨number, .main⟩).bind fun _ => worker.widenedMain post
  deinit post :=
    (BusProgram.note ⟨number, .deinit⟩).left.bind fun _ => (worker.deinit post).widen

theorem quiet_widenedMain (worker : Worker ω σ) (post : Post) :
    (worker.widenedMain (ν := ν) post).Every BusRequest.Quiet Body.Quiet :=
  Program.Every.bind (BusProgram.quiet_widen (worker.main post)) fun body _ => body.quiet_widen

end Worker

namespace WorkerContext

variable {B : Behaviour (ω ⊕ WorkerNote) σ} (quiet : B.Quiet) (number : Nat)
variable (worker : Worker ω σ) (context : WorkerContext σ) (net : Network (ω ⊕ WorkerNote))
include quiet

theorem notes_bringUp :
    (context.bringUp B (worker.noting number) net).2.2.notes =
      net.notes ++ [⟨number, .init⟩] := by
  unfold bringUp
  refine (BusProgram.notes_run (Chain.every_startAll quiet.makes _ _ _) _).trans ?_
  refine (BusProgram.notes_run (BusProgram.quiet_widen _) _).trans ?_
  exact Network.notes_perform_emit_note net _

theorem notes_takeDown :
    (context.takeDown B (worker.noting number) net).2.notes =
      net.notes ++ [⟨number, .deinit⟩] := by
  unfold takeDown
  refine (ClosingProgram.notes_run quiet (ClosingProgram.quiet_widen _) _).trans ?_
  exact Network.notes_perform_emit_note net _

end WorkerContext

/-! ## Threads -/

/-- A phase in which a thread takes no notes any more. -/
def ThreadPhase.Quiet : ThreadPhase (ω ⊕ ν) σ → Prop
  | .opening main => main.Every BusRequest.Quiet Body.Quiet
  | .looping loop task _ => loop.work.Quiet ∧ ∀ job ∈ task, BusProgram.Quiet job
  | .leaving _ => True
  | .returned _ => True
  | .panicked => True

theorem Body.makes_quiet : (Body.Makes BusRequest.Quiet : Body (ω ⊕ ν) → Prop) = Body.Quiet := by
  funext body
  cases body <;> rfl

theorem ThreadPhase.makes_quiet (phase : ThreadPhase (ω ⊕ ν) σ) :
    phase.Makes BusRequest.Quiet ↔ phase.Quiet := by
  cases phase with
  | opening main => rw [Makes, Body.makes_quiet, Quiet]
  | looping loop task code =>
    obtain ⟨mode, work⟩ := loop
    cases work <;> exact Iff.rfl
  | leaving code => exact Iff.rfl
  | returned code => exact Iff.rfl
  | panicked => exact Iff.rfl

namespace Thread

variable {B : Behaviour (ω ⊕ ν) σ} {thread after : Thread (ω ⊕ ν) σ} {net net' : Network (ω ⊕ ν)}

theorem quiet_step (quiet : B.Quiet) (quietThread : thread.phase.Quiet)
    (stepped : thread.step B net = some (after, net')) :
    after.phase.Quiet ∧ net'.notes = net.notes := by
  have phase := (ThreadPhase.makes_quiet _).mpr quietThread
  have kept := keeps_step quiet.makes BusRequest.common_quiet phase stepped
  exact ⟨(ThreadPhase.makes_quiet _).mp kept.phase, kept.touch.notes⟩

theorem quiet_taskStep (quietThread : thread.phase.Quiet)
    (stepped : thread.taskStep net = some (after, net')) :
    after.phase.Quiet ∧ net'.notes = net.notes := by
  have phase := (ThreadPhase.makes_quiet _).mpr quietThread
  have kept : Keeps (fun _ => BusRequest.Quiet) thread after net net' :=
    keeps_taskStep phase stepped
  exact ⟨(ThreadPhase.makes_quiet _).mp kept.phase, kept.touch.notes⟩

theorem quiet_addJob {job : Post → BusProgram (ω ⊕ ν) Unit} (quietJob : ∀ post, (job post).Quiet)
    (quietThread : thread.phase.Quiet) : (thread.addJob job).phase.Quiet :=
  (ThreadPhase.makes_quiet _).mp
    (makes_addJob quietJob ((ThreadPhase.makes_quiet _).mpr quietThread))

/-! ### The worker of a thread -/

theorem worker_step {B : Behaviour ω σ} {thread after : Thread ω σ} {net net' : Network ω}
    (stepped : thread.step B net = some (after, net')) : after.worker = thread.worker :=
  (keeps_step B.makes_anything BusRequest.common_anything (ThreadPhase.makes_anything _)
    stepped).worker

theorem worker_taskStep {thread after : Thread ω σ} {net net' : Network ω}
    (stepped : thread.taskStep net = some (after, net')) : after.worker = thread.worker :=
  have kept : Keeps (fun _ _ => True) thread after net net' :=
    keeps_taskStep (ThreadPhase.makes_anything _) stepped
  kept.worker

end Thread

end AgentBus
