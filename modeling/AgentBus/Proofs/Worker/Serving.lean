import AgentBus.Proofs.Worker.Touch

/-!
# The messages that wait for a serving thread

What a thread that serves still has to do is its message in hand and its queue, up to the first exit
message (`Thread.due`). `Thread.Onward` says how a step changes that, whether it is a step of the
thread or of somebody else: messages only come behind those that wait, and go only by being
offered, in order, unless the endpoint is tearing down. The thread stops serving only when it
handled an exit message or its endpoint is tearing down.
-/

namespace AgentBus

variable {ω σ : Type} {B : Behaviour ω σ}

/-! ## Threads that serve -/

/-- The thread goes on to serve the mailbox. -/
def Body.Serves : Body ω → Prop
  | .serve _ _ => True
  | .leave _ => False
  | .panic => False

/-- The worker's `main` serves the mailbox whatever its opening comes to. -/
def Worker.Serves (worker : Worker ω σ) : Prop :=
  ∀ post, (worker.main post).Every (fun _ => True) Body.Serves

/-- The message in hand before it is offered. -/
def Work.inHand : Work ω σ → List Message
  | .free => []
  | .taken message => [message]
  | .offering _ _ => []

/-- Whether an exit message is being offered. -/
def Work.isExiting : Work ω σ → Bool
  | .free => false
  | .taken _ => false
  | .offering message _ => message.isExit

/-- Spared queues only grow. -/
theorem Network.Serves.queueAt {net net' : Network ω} {e : EndpointId} (serves : net.Serves e)
    (spares : Network.Spares e net net') : ∃ more, net'.queueAt e = net.queueAt e ++ more := by
  obtain ⟨endpoint, found, _⟩ := serves
  exact spares.queueAt found

/-! ## Loops -/

namespace Loop

variable {loop next : Loop ω σ} {site after : Site ω σ}

/-- The messages and the work after a step of a loop that goes on. -/
structure Onward (loop : Loop ω σ) (site : Site ω σ) (offered : Option Message)
    (next : Loop ω σ) (after : Site ω σ) : Prop where
  silent : site.isTearingDown = true ∨ loop.work.isExiting = true → offered = none
  waiting : site.isTearingDown = false → ∃ more,
    loop.work.inHand ++ site.network.queueAt site.own ++ more =
      offered.toList ++ (next.work.inHand ++ after.network.queueAt site.own)
  exiting : next.work.isExiting = (loop.work.isExiting || offered.any Message.isExit)

/-- The message that the next step of a loop begins to offer. -/
def offers (loop : Loop ω σ) (site : Site ω σ) : Option Message :=
  match loop.work with
  | .taken message => if site.isTearingDown then none else some message
  | _ => none

theorem onward_step (serves : site.network.Serves site.own)
    (serving : loop.mode.isServing = true) (stepped : loop.step B site = .working next after) :
    loop.Onward site (loop.offers site) next after := by
  have goes := loop.goes_step (B := B) site
  rw [stepped] at goes
  obtain ⟨mode, work⟩ := loop
  cases goes with
  | poll same =>
    obtain ⟨rfl, rfl⟩ := Loop.mk.inj same
    contradiction
  | take free _ _ taken =>
    obtain rfl : work = .free := free
    refine ⟨fun _ => rfl, fun _ => ⟨[], ?_⟩, rfl⟩
    rw [(Network.queueAt_take taken).1, List.append_nil]
    rfl
  | @drop message taken down =>
    obtain rfl : work = .taken message := taken
    simp only [offers, down, if_true]
    exact ⟨fun _ => rfl, fun up => (nomatch down.symm.trans up), rfl⟩
  | @begin message taken up =>
    obtain rfl : work = .taken message := taken
    simp only [offers, up, Bool.false_eq_true, if_false]
    refine ⟨fun stopped => ?_, fun _ => ⟨[], List.append_nil _⟩, rfl⟩
    simp [up, Work.isExiting] at stopped
  | @ask message request rest offering =>
    obtain rfl : work = .offering message (.ask request rest) := offering
    refine ⟨fun _ => rfl, fun _ => ?_, (Bool.or_false _).symm⟩
    obtain ⟨more, grown⟩ := serves.queueAt (.perform request)
    exact ⟨more, grown.symm⟩
  | @finish message offered offering stays =>
    obtain rfl : work = .offering message (.done offered) := offering
    refine ⟨fun _ => rfl, fun _ => ⟨[], ?_⟩, ?_⟩
    · rw [List.append_nil]
      exact (Network.queueAt_recordDispatched _ _ _).symm
    · -- A serving loop that handled an exit message would have ended
      cases mode with
      | serving => exact ((Bool.or_false _).trans (stays rfl)).symm
      | draining => contradiction

/-- A serving loop ends after an exit message, or when its endpoint is tearing down. -/
theorem ended_step {how : LoopEnd} (serving : loop.mode.isServing = true)
    (stepped : loop.step B site = .ended how after) :
    loop.offers site = none ∧ (site.isTearingDown = true ∨ loop.work.isExiting = true) := by
  have goes := loop.goes_step (B := B) site
  rw [stepped] at goes
  cases goes with
  | exited same exits =>
    subst same
    exact ⟨rfl, .inr exits⟩
  | released same down =>
    subst same
    exact ⟨rfl, .inl down⟩
  | drained same =>
    rw [same] at serving
    contradiction

end Loop

/-! ## Exit messages -/

namespace Message

/-- The messages up to the first exit message, and with that. -/
def upToExit : List Message → List Message
  | [] => []
  | message :: rest => if message.isExit then [message] else message :: upToExit rest

theorem upToExit_append {messages : List Message} (exits : messages.any isExit = true)
    (more : List Message) : upToExit (messages ++ more) = upToExit messages := by
  induction messages with
  | nil => contradiction
  | cons message rest ih =>
    rw [List.cons_append, upToExit, upToExit]
    split
    · rfl
    · next stays =>
      rw [List.any_cons, Bool.eq_false_iff.mpr stays, Bool.false_or] at exits
      rw [ih exits]

end Message

/-! ## Threads -/

namespace Thread

variable {thread after : Thread ω σ} {net net' : Network ω}

/-- Whether the loop that ends with an exit message is still to be ended. -/
def isServing (thread : Thread ω σ) : Bool :=
  match thread.phase with
  | .opening _ => true
  | .looping loop _ _ => loop.mode.isServing
  | .leaving _ => false
  | .returned _ => false
  | .panicked => false

def work (thread : Thread ω σ) : Work ω σ :=
  match thread.phase with
  | .looping loop _ _ => loop.work
  | _ => .free

/-- A thread that goes on to serve once it is past its opening. -/
def Steady (thread : Thread ω σ) : Prop :=
  match thread.phase with
  | .opening main => main.Every (fun _ => True) Body.Serves
  | _ => True

/-- The messages that were accepted and are neither offered nor released yet, oldest first. -/
def waiting (thread : Thread ω σ) (net : Network ω) : List Message :=
  thread.work.inHand ++ net.queueAt thread.own

/-- The message that the next step of a thread begins to offer to its chain. -/
def offers (thread : Thread ω σ) (net : Network ω) : Option Message :=
  match thread.work with
  | .taken message => if net.isTearingDown thread.own then none else some message
  | _ => none

/-! ### Steps -/

variable {offered : Option Message}

/-- How a serving thread stands after a step in which it began to offer a message or not. -/
structure Onward (thread : Thread ω σ) (net : Network ω) (offered : Option Message)
    (after : Thread ω σ) (net' : Network ω) : Prop where
  own : after.own = thread.own
  down : net.isTearingDown thread.own = true → net'.isTearingDown thread.own = true
  silent : net.isTearingDown thread.own = true ∨ thread.work.isExiting = true → offered = none
  ended : after.isServing = false →
    net.isTearingDown thread.own = true ∨ thread.work.isExiting = true
  waiting : after.isServing = true → net.isTearingDown thread.own = false →
    ∃ more, thread.waiting net ++ more = offered.toList ++ after.waiting net'
  exiting : after.isServing = true →
    after.work.isExiting = (thread.work.isExiting || offered.any Message.isExit)

/-- What others do leaves a thread its messages. -/
theorem Onward.of_spared (serves : net.Serves thread.own) (same : after.own = thread.own)
    (serving : after.isServing = true) (work : after.work = thread.work)
    (spares : Network.Spares thread.own net net') : thread.Onward net none after net' where
  own := same
  down := spares.isTearingDown
  silent _ := rfl
  ended stopped := by rw [serving] at stopped; contradiction
  waiting _ _ := by
    obtain ⟨more, grown⟩ := serves.queueAt spares
    refine ⟨more, ?_⟩
    rw [Thread.waiting, Thread.waiting, work, same, grown, List.append_assoc]
    rfl
  exiting _ := by rw [work, Option.any_none, Bool.or_false]

/-- Whatever a serving thread does, its messages wait until they are offered. -/
theorem onward_step (steady : thread.Steady) (stands : thread.Stands net)
    (serving : thread.isServing = true) (stepped : thread.step B net = some (after, net')) :
    thread.Onward net (thread.offers net) after net' := by
  have kept : Keeps (fun _ _ => True) thread after net net' :=
    keeps_step B.makes_anything BusRequest.common_anything thread.phase.makes_anything stepped
  obtain ⟨worker, context, phase⟩ := thread
  cases goes_step stepped with
  | ask => exact .of_spared (stands.serves nofun) rfl rfl rfl (.perform _)
  | panic => exact steady.elim
  | skip => exact steady.elim
  | serve => exact .of_spared (stands.serves nofun) rfl rfl rfl (.of_same rfl)
  | @loop loop next task code site looped =>
    have still : next.mode.isServing = true := (Loop.isServing_step looped).trans serving
    have onward := Loop.onward_step (stands.serves nofun) serving looped
    refine ⟨kept.own, kept.touch.isTearingDown, onward.silent,
      fun stopped => (nomatch still.symm.trans stopped), fun _ up => ?_, fun _ => onward.exiting⟩
    rw [Thread.waiting, Thread.waiting, kept.own]
    exact onward.waiting up
  | @ended loop task code how site looped =>
    obtain ⟨silent, why⟩ := Loop.ended_step serving looped
    -- Whatever ended the loop, the thread does not serve after it
    cases how with
    | exited =>
      exact ⟨kept.own, kept.touch.isTearingDown, fun _ => silent, fun _ => why, nofun, nofun⟩
    | released =>
      exact ⟨kept.own, kept.touch.isTearingDown, fun _ => silent, fun _ => why, nofun, nofun⟩
    | drained =>
      exact ⟨kept.own, kept.touch.isTearingDown, fun _ => silent, fun _ => why, nofun, nofun⟩
  | leave => contradiction

theorem onward_taskStep (stands : thread.Stands net)
    (stepped : thread.taskStep net = some (after, net')) :
    thread.Onward net none after net' := by
  obtain ⟨worker, context, phase⟩ := thread
  obtain ⟨job, rest, code, serving, rfl, rfl⟩ := taskStep_eq_some stepped
  obtain rfl : phase = _ := serving
  exact .of_spared (stands.serves nofun) rfl rfl rfl (.run job)

/-! ### After the loop -/

/-- A thread that has stopped serving offers no message any more. -/
theorem offers_of_ended (stands : thread.Stands net) (ended : thread.isServing = false) :
    thread.offers net = none := by
  obtain ⟨worker, context, phase⟩ := thread
  cases phase with
  | opening main => contradiction
  | looping loop task code =>
    have draining : !loop.mode.isServing := by rw [show loop.mode.isServing = false from ended]; rfl
    have down := stands.down draining
    unfold offers
    split
    · rw [if_pos down]
    · rfl
  | leaving code => rfl
  | returned code => rfl
  | panicked => rfl

theorem ended_step (ended : thread.isServing = false)
    (stepped : thread.step B net = some (after, net')) : after.isServing = false := by
  obtain ⟨worker, context, phase⟩ := thread
  cases goes_step stepped with
  | ask | panic | skip | serve => contradiction
  | loop looped => exact (Loop.isServing_step looped).trans ended
  | @ended loop task code how => cases how <;> rfl
  | leave => rfl

theorem serving_of_taskStep (stepped : thread.taskStep net = some (after, net')) :
    thread.isServing = true := by
  obtain ⟨job, rest, code, serving, -, -⟩ := taskStep_eq_some stepped
  rw [isServing, serving]
  rfl

theorem steady_step (steady : thread.Steady) (stepped : thread.step B net = some (after, net')) :
    after.Steady := by
  obtain ⟨worker, context, phase⟩ := thread
  cases goes_step stepped with
  | ask => exact steady.2 _
  | panic | skip | serve | loop | leave => trivial
  | @ended loop task code how => cases how <;> trivial

theorem steady_taskStep (stepped : thread.taskStep net = some (after, net')) : after.Steady := by
  obtain ⟨job, rest, code, -, rfl, -⟩ := taskStep_eq_some stepped
  trivial

theorem steady_crash (stepped : thread.crash net = some (after, net')) : after.Steady := by
  rw [Steady, phase_crash stepped]
  trivial

theorem steady_spawn {worker : Worker ω σ} (serves : worker.Serves) (context : WorkerContext σ) :
    (spawn worker context).Steady :=
  serves context.post

/-! ### Exit messages -/

/-- A thread that is bound to stop serving: its endpoint is tearing down, it is offering an exit
message, or there is one in its hand or in its queue. -/
def Doomed (thread : Thread ω σ) (net : Network ω) : Prop :=
  net.isTearingDown thread.own = true ∨ thread.work.isExiting = true ∨
    (thread.waiting net).any Message.isExit = true

/-- The messages that a doomed thread will offer at most: none if its endpoint is tearing down or
the exit message is being offered. -/
def due (thread : Thread ω σ) (net : Network ω) : List Message :=
  if net.isTearingDown thread.own || thread.work.isExiting then []
  else Message.upToExit (thread.waiting net)

/-- A thread that goes on to serve stays doomed, and offers what was due, in order. -/
theorem Onward.due (onward : thread.Onward net offered after net')
    (still : after.isServing = true) (doomed : thread.Doomed net) :
    after.Doomed net' ∧ offered.toList ++ after.due net' <+: thread.due net := by
  cases down : net.isTearingDown thread.own with
  | true =>
    have down' : net'.isTearingDown after.own = true := onward.own ▸ onward.down down
    refine ⟨.inl down', ?_⟩
    rw [onward.silent (.inl down), Thread.due, down']
    exact List.nil_prefix
  | false =>
  cases exiting : thread.work.isExiting with
  | true =>
    have exiting' := onward.exiting still
    rw [exiting, Bool.true_or] at exiting'
    refine ⟨.inr (.inl exiting'), ?_⟩
    rw [onward.silent (.inr exiting), Thread.due, exiting', Bool.or_true]
    exact List.nil_prefix
  | false =>
    -- The exit message is among those that wait, before anything that came in this step
    have exits : (thread.waiting net).any Message.isExit = true := by
      simpa [Doomed, down, exiting] using doomed
    obtain ⟨more, grown⟩ := onward.waiting still down
    have exits' : (offered.toList ++ after.waiting net').any Message.isExit = true := by
      rw [← grown, List.any_append, exits, Bool.true_or]
    have all : thread.due net = Message.upToExit (offered.toList ++ after.waiting net') := by
      rw [Thread.due, down, exiting, ← grown, Message.upToExit_append exits]
      rfl
    have exiting' := onward.exiting still
    rw [exiting, Bool.false_or] at exiting'
    have fewer : after.due net' <+: Message.upToExit (after.waiting net') := by
      unfold Thread.due
      split
      · exact List.nil_prefix
      · exact List.prefix_rfl
    rw [all]
    cases offered with
    | none => exact ⟨.inr (.inr exits'), fewer⟩
    | some message =>
      rw [Option.any_some] at exiting'
      cases exit : message.isExit with
      | true =>
        rw [exit] at exiting'
        refine ⟨.inr (.inl exiting'), ?_⟩
        rw [Thread.due, exiting', Bool.or_true]
        simp [Message.upToExit, exit]
      | false =>
        refine ⟨.inr (.inr ?_), ?_⟩
        · simpa [exit] using exits'
        · simpa [Message.upToExit, exit] using fewer

end Thread

end AgentBus
