import AgentBus.Proofs.Agent.Records

/-!
# What an agent leaves behind

An agent that has finished has cleaned up, whatever its workers did, whether or not they could all
be brought up: `cleanup` puts together what becomes of the directory and the endpoints, what is
called of the workers, and that the core handles nothing after it has stopped serving.
-/

namespace AgentBus

variable {ω σ : Type}

/-! ## The loop of the core -/

def AgentPhase.isServing : AgentPhase ω → Bool
  | .serving _ => true
  | _ => false

/-- The handlers of the core are called for a message. -/
def AgentPhase.isHandling : AgentPhase ω → Bool
  | .serving loop => loop.work.isOffering
  | .draining loop => loop.work.isOffering
  | _ => false

namespace Agent

variable {B : Behaviour ω σ} {agent agent' : Agent ω σ} {names : List String} {move : Move ω}

/-- The core does not begin to serve again. -/
theorem Step.isServing (step : agent.Step B move agent') (stopped : agent.phase.isServing = false) :
    agent'.phase.isServing = false := by
  cases step with
  | stay => exact stopped
  | act => exact stopped
  | serve serving =>
    rw [serving] at stopped
    contradiction
  | leave => rfl
  | notice => rfl
  | dismiss => rfl
  | dismissed => rfl
  | join => rfl
  | drain => rfl
  | close => rfl
  | ask => exact stopped
  | clock => exact stopped

/-- After it has stopped serving, the core calls no handler for a message. -/
def Retires (agent : Agent ω σ) : Prop :=
  agent.phase.isServing = false → agent.phase.isHandling = false

theorem Orderly.retires (orderly : agent.Orderly names) (retires : agent.Retires)
    (step : agent.Step B move agent') : agent'.Retires := by
  intro stopped
  cases step with
  | stay => exact retires stopped
  | act => exact retires stopped
  | serve => contradiction
  | leave => rfl
  | notice => rfl
  | dismiss => rfl
  | dismissed => rfl
  | join => rfl
  | drain draining stepped =>
    have idle := retires (by rw [draining]; rfl)
    rw [draining] at idle
    exact Loop.isOffering_step stepped (orderly.down (by rw [isClosing, draining])) idle
  | close => rfl
  | ask => exact retires stopped
  | clock => exact retires stopped

section Sessions

variable {config : Config} {workers : List (Worker ω σ)}

theorem retires_session (makes : B.Makes BusRequest.Local)
    (opens : ∀ worker ∈ workers, worker.Makes BusRequest.Local)
    (distinct : (coreName :: workers.map Worker.name).Nodup) {moves : List (Move ω)}
    (tidy : ∀ move ∈ moves, move.Tidy) : (session B config workers moves).Retires := by
  have launched : Retires ((workers.foldl register (create config)).launch B) := by
    rw [launch_eq]
    split
    · exact fun _ => rfl
    · exact fun _ => rfl
  suffices both : ((session B config workers moves).Orderly (endpointNames B config workers) ∨
      (session B config workers moves).Closed (endpointNames B config workers)) ∧
      (session B config workers moves).Retires from both.2
  refine moves_induction (P := fun agent : Agent ω σ =>
    (agent.Orderly (endpointNames B config workers) ∨
      agent.Closed (endpointNames B config workers)) ∧ agent.Retires) ?_
    ⟨.inl (orderly_launch makes opens distinct), launched⟩ tidy
  rintro agent agent' move ⟨orderly | closed, retires⟩ tidy step
  · exact ⟨orderly.step makes tidy step, orderly.retires retires step⟩
  · have closed' := closed.step tidy step
    refine ⟨.inr closed', fun _ => ?_⟩
    rw [closed'.phase]
    rfl

theorem isServing_of_prefix {past moves : List (Move ω)} (ahead : past <+: moves)
    (stopped : (session B config workers past).phase.isServing = false) :
    (session B config workers moves).phase.isServing = false := by
  obtain ⟨later, rfl⟩ := ahead
  rw [session, moves_append]
  exact moves_induction (P := fun agent : Agent ω σ => agent.phase.isServing = false)
    (fun stopped _ step => step.isServing stopped) stopped fun _ _ => trivial

theorem failure_session (moves : List (Move ω)) :
    (session B config workers moves).failure = (prepared B config workers).1 := by
  refine moves_induction
    (P := fun agent : Agent ω σ => agent.failure = (prepared B config workers).1)
    (fun same _ step => step.failure.trans same) ?_ fun _ _ => trivial
  rw [launch_eq]
  split
  · next failed => exact failed.symm
  · next fine => exact fine.symm

theorem upToFailure_session (moves : List (Move ω)) :
    Registry.UpToFailure workers (setups B config workers)
      (session B config workers moves).failure := by
  rw [failure_session]
  exact (walk_prepared B config workers).upToFailure

end Sessions

/-- An agent has workers under names of their own, which bind channels to their own endpoints at
most, and nobody outside changes the directory. Once its core has stopped serving, it calls its
handlers for no message any more. When the agent has finished, its directory is empty; the core's
endpoint and those of the workers whose `init` was called are tearing down, and there are no others;
and if `init` failed of a worker, the agent tells so, and of no worker behind it `init` was called.

What was called of the workers stands in their notebooks. When an agent with notebooks has finished,
nothing was called of a worker whose `init` was not; if `init` failed of one, `init` and then
`deinit` were called of the others up to it; and if not, `init` and `main` of all, and `deinit` of
those that did not panic. -/
theorem cleanup (B : Behaviour ω σ) (config : Config) (workers : List (Worker ω σ))
    (makes : B.Makes BusRequest.Local)
    (opens : ∀ worker ∈ workers, worker.Makes BusRequest.Local)
    (distinct : (coreName :: workers.map Worker.name).Nodup) :
    (∀ moves : List (Move ω), (∀ move ∈ moves, move.Tidy) →
      let agent := session B config workers moves
      (∀ past, past <+: moves → (session B config workers past).phase.isServing = false →
        agent.phase.isServing = false ∧ agent.phase.isHandling = false) ∧
      (agent.phase = .finished →
        agent.network.context.directory = {} ∧
        (∀ endpoint ∈ agent.network.endpoints, endpoint.tearingDown = true) ∧
        agent.network.endpoints.map Endpoint.name =
          coreName :: (workers.take (setups B config workers).length).map Worker.name ∧
        Registry.UpToFailure workers (setups B config workers) agent.failure)) ∧
    ∀ moves : List (Move (ω ⊕ WorkerNote)), (∀ move ∈ moves, move.Tidy ∧ move.Quiet) →
      let agent := session B.widen config (notingAll workers) moves
      agent.phase = .finished →
        agent.network.Calls (setups B config workers).length
          (∃ setup ∈ setups B config workers, setup.failure.isSome = true)
          (Panicked B.widen config (notingAll workers) moves) := by
  constructor
  · intro moves tidy agent
    constructor
    · intro past ahead stopped
      have stopped' := isServing_of_prefix ahead stopped
      exact ⟨stopped', retires_session makes opens distinct tidy stopped'⟩
    · intro finished
      rcases closed_session makes opens distinct tidy with orderly | closed
      · exact absurd finished orderly.going
      · refine ⟨closed.roster.lists.eq_empty, ?_, closed.names, upToFailure_session moves⟩
        intro endpoint member
        obtain ⟨index, found⟩ := List.getElem?_of_mem member
        exact (closed.roster.down ⟨index⟩ endpoint found).resolve_right List.not_mem_nil
  · intro moves both agent finished
    have tidy := fun move member => (both move member).1
    have silent := fun move member => (both move member).2
    -- With notebooks `init` fails of the same workers as without
    have upTo := @upToFailure_session _ _ B.widen config (notingAll workers) moves
    rw [setups_notingAll] at upTo
    rcases told_session B config workers makes opens distinct moves tidy silent with tells | told
    · exact absurd finished tells.going
    · have calls := told.calls
      rw [upTo.isSome_iff] at calls
      exact calls

/-! ### A panic -/

def mute : Behaviour Unit Unit :=
  .handling (fun _ => "mute") fun _ handler message => .done ⟨handler, message, none⟩

def steady : Worker Unit Unit where
  name := "steady"

def fragile : Worker Unit Unit where
  name := "fragile"
  main _ := .done .panic

/-- The second worker panics; then the agent is shut down. -/
def breakdown : List (Move ω) :=
  [.turn (.worker 1), .turn (.worker 1), .turn (.worker 0), .turn (.worker 0),
    .ask (.change .requestShutdown), .turn .notice] ++ List.replicate 3 (.turn .core) ++
    List.replicate 6 (.turn (.worker 0)) ++ List.replicate 3 (.turn .core)

/-- Mailboxes are drained up to the first time that they are empty. -/
def hasty : Config where
  bus := { idleIterations := 1 }

theorem mem_breakdown {move : Move (ω ⊕ WorkerNote)} (member : move ∈ breakdown) :
    move.Tidy ∧ move.Quiet := by
  have asked : ∀ request : BusRequest (ω ⊕ WorkerNote), .ask request ∈ breakdown →
      request = .change .requestShutdown := by
    simp [breakdown]
  constructor
  · rintro request rfl
    rw [asked request member]
    trivial
  · rintro request rfl
    rw [asked request member]
    trivial

theorem cleanup_breakdown :
    let agent := session mute.widen hasty (notingAll [steady, fragile]) breakdown
    agent.phase = .finished ∧ agent.network.callsOf 0 = [.init, .main, .deinit] ∧
      agent.network.callsOf 1 = [.init, .main] := by
  have makes : mute.Makes BusRequest.Local :=
    Behaviour.makes_handling _ fun _ _ _ => trivial
  have opens : ∀ worker ∈ [steady, fragile], worker.Makes BusRequest.Local := by
    rw [List.forall_mem_cons, List.forall_mem_singleton]
    exact ⟨⟨fun _ => trivial, fun _ => List.forall_mem_nil _, fun _ => ⟨trivial, fun _ => trivial⟩⟩,
      fun _ => trivial, fun _ => trivial, fun _ => ⟨trivial, fun _ => trivial⟩⟩
  obtain ⟨-, cleaned⟩ := cleanup mute hasty [steady, fragile] makes opens (by decide)
  have calls := cleaned breakdown (fun _ => mem_breakdown) rfl
  have fine : ¬ ∃ setup ∈ setups mute hasty [steady, fragile], setup.failure.isSome = true := by
    decide
  refine ⟨rfl, calls.returned fine 0 (by decide) ?_, ?_⟩
  · rintro ⟨past, ahead, thread, running, panicked⟩
    obtain ⟨count, bound, rfl⟩ : ∃ count < 19, past = breakdown.take count :=
      ⟨past.length, Nat.lt_succ_of_le ahead.length_le, List.prefix_iff_eq_take.mp ahead⟩
    have going : ∀ count < 19, (((session mute.widen hasty (notingAll [steady, fragile])
        (breakdown.take count)).thread? 0).any fun thread =>
          match thread.phase with
          | .panicked => true
          | _ => false) = false := by decide
    have going := going count bound
    rw [running, Option.any_some, panicked] at going
    contradiction
  · exact calls.panicked fine 1 (by decide)
      ⟨breakdown.take 2, List.take_prefix _ _, _, rfl, rfl⟩

end Agent

end AgentBus
