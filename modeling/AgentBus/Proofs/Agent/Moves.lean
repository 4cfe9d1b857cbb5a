import AgentBus.Agent.Basic
import AgentBus.Proofs.Worker.Touch

/-!
# Runs of an agent

While an agent runs, its threads take turns, workers may panic, others may make requests, and time
goes by: each of these is a `Move`. Any list of moves is a possible run. `Agent.Step` lists what a
move can do to an agent, and `Agent.step_move` says that there is nothing else.
-/

namespace AgentBus

variable {ω σ : Type}

/-- What happens next while an agent runs. -/
inductive Move (ω : Type) where
  | turn (turn : Turn)
  /-- The worker at a position panics in the middle of its work. -/
  | crash (index : Nat)
  /-- Somebody outside makes a request. -/
  | ask (request : BusRequest ω)
  /-- The agent is so many seconds old. -/
  | clock (seconds : Nat)

namespace Agent

/-! ## Moves -/

/-- The agent with another worker at a position, and another network. -/
def withSlot (agent : Agent ω σ) (index : Nat) (slot : Slot ω σ) (net : Network ω) :
    Agent ω σ :=
  { agent with registry := ⟨agent.registry.slots.set index slot⟩, network := net }

def withNetwork (agent : Agent ω σ) (net : Network ω) : Agent ω σ :=
  { agent with network := net }

/-- The agent after a move. A thread that cannot act lets its turn pass. -/
def move (B : Behaviour ω σ) (agent : Agent ω σ) : Move ω → Agent ω σ
  | .turn turn => (agent.turn B turn).getD agent
  | .crash index =>
    ((agent.registry.act Thread.crash index agent.network).map agent.withWorkers).getD agent
  | .ask request => agent.withNetwork (Network.perform request agent.network).2
  | .clock seconds =>
    agent.withNetwork
      { agent.network with
        context := { agent.network.context with uptimeSeconds := seconds } }

def moves (B : Behaviour ω σ) (agent : Agent ω σ) (moves : List (Move ω)) : Agent ω σ :=
  moves.foldl (move B) agent

/-- An agent with some workers that was launched and has made some moves. -/
def session (B : Behaviour ω σ) (config : Config) (workers : List (Worker ω σ))
    (moves : List (Move ω)) : Agent ω σ :=
  ((workers.foldl register (create config)).launch B).moves B moves

variable {B : Behaviour ω σ} {agent : Agent ω σ}

theorem moves_append (first second : List (Move ω)) :
    agent.moves B (first ++ second) = (agent.moves B first).moves B second :=
  List.foldl_append

/-! ## Steps -/

/-- The ways in which the thread of a worker acts. -/
inductive Acts (B : Behaviour ω σ) (index : Nat) (thread : Thread ω σ) (net : Network ω) :
    Move ω → Thread ω σ → Network ω → Prop where
  | step {after : Thread ω σ} {net' : Network ω} : thread.step B net = some (after, net') →
      Acts B index thread net (.turn (.worker index)) after net'
  | task {after : Thread ω σ} {net' : Network ω} : thread.taskStep net = some (after, net') →
      Acts B index thread net (.turn (.task index)) after net'
  | crash {after : Thread ω σ} {net' : Network ω} : thread.crash net = some (after, net') →
      Acts B index thread net (.crash index) after net'

/-- What a move does to an agent. -/
inductive Step (B : Behaviour ω σ) (agent : Agent ω σ) : Move ω → Agent ω σ → Prop where
  /-- Nobody can act whose turn it is, or nobody is there to panic. -/
  | stay {move : Move ω} : (∀ turn, move = .turn turn → agent.turn B turn = none) →
      Step B agent move agent
  | act {index : Nat} {slot : Slot ω σ} {thread after : Thread ω σ} {net : Network ω}
      {move : Move ω} : agent.registry.slots[index]? = some slot → slot.thread = some thread →
      Acts B index thread agent.network move after net →
      Step B agent move (agent.withSlot index { slot with thread := some after } net)
  | serve {loop next : Loop ω CoreHandler} {site : Site ω CoreHandler} :
      agent.phase = .serving loop →
      loop.step CoreHandler.behaviour agent.site = .working next site →
      Step B agent (.turn .core) { agent.after site with phase := .serving next }
  | leave {loop : Loop ω CoreHandler} {how : LoopEnd} {site : Site ω CoreHandler} :
      agent.phase = .serving loop → loop.step CoreHandler.behaviour agent.site = .ended how site →
      Step B agent (.turn .core) { agent.after site with phase := dismissal agent.registry }
  | notice : agent.phase = .serving .serving → agent.network.context.shutdownRequested = true →
      Step B agent (.turn .notice) { agent with phase := dismissal agent.registry }
  | dismiss {endpoint : EndpointId} {rest : List EndpointId} :
      agent.phase = .dismissing (endpoint :: rest) →
      Step B agent (.turn .core)
        { agent with
          network := (agent.network.send (.ofPayload .exit) agent.core.own endpoint).2
          phase := .dismissing rest }
  | dismissed : agent.phase = .dismissing [] →
      Step B agent (.turn .core) { agent with phase := .joining }
  | join : agent.phase = .joining → agent.registry.isBusy = false →
      Step B agent (.turn .core)
        { agent with
          registry := agent.registry.stop
          network := agent.network.tearDown agent.core.own
          phase := .draining (.draining agent.core.drain.idleIterations.toNat) }
  | drain {loop next : Loop ω CoreHandler} {site : Site ω CoreHandler} :
      agent.phase = .draining loop →
      loop.step CoreHandler.behaviour agent.site = .working next site →
      Step B agent (.turn .core) { agent.after site with phase := .draining next }
  | close {loop : Loop ω CoreHandler} {how : LoopEnd} {site : Site ω CoreHandler} :
      agent.phase = .draining loop → loop.step CoreHandler.behaviour agent.site = .ended how site →
      Step B agent (.turn .core) ((agent.after site).close B)
  | ask (request : BusRequest ω) :
      Step B agent (.ask request) (agent.withNetwork (Network.perform request agent.network).2)
  | clock (seconds : Nat) :
      Step B agent (.clock seconds)
        (agent.withNetwork
          { agent.network with
            context := { agent.network.context with uptimeSeconds := seconds } })

theorem act_eq_some {act : Thread ω σ → Network ω → Option (Thread ω σ × Network ω)}
    {index : Nat} {registry : Registry ω σ} {net : Network ω} {acted : Registry ω σ × Network ω}
    (done : registry.act act index net = some acted) :
    ∃ slot thread after net', registry.slots[index]? = some slot ∧ slot.thread = some thread ∧
      act thread net = some (after, net') ∧
      acted = (⟨registry.slots.set index { slot with thread := some after }⟩, net') := by
  unfold Registry.act at done
  obtain ⟨slot, found, done⟩ := Option.bind_eq_some_iff.mp done
  obtain ⟨thread, running, done⟩ := Option.bind_eq_some_iff.mp done
  obtain ⟨⟨after, net'⟩, went, rfl⟩ := Option.map_eq_some_iff.mp done
  exact ⟨slot, thread, after, net', found, running, went, rfl⟩

/-- An act of the thread of a worker, of whichever kind. -/
theorem step_act {act : Thread ω σ → Network ω → Option (Thread ω σ × Network ω)} {index : Nat}
    {move : Move ω} {agent' : Agent ω σ}
    (acts : ∀ {thread after : Thread ω σ} {net' : Network ω},
      act thread agent.network = some (after, net') →
        Acts B index thread agent.network move after net')
    (done : (agent.registry.act act index agent.network).map agent.withWorkers = some agent') :
    agent.Step B move agent' := by
  obtain ⟨acted, performed, rfl⟩ := Option.map_eq_some_iff.mp done
  obtain ⟨slot, thread, after, net', found, running, went, rfl⟩ := act_eq_some performed
  exact .act found running (acts went)

theorem step_core {agent' : Agent ω σ} (stepped : agent.coreStep B = some agent') :
    agent.Step B (.turn .core) agent' := by
  unfold coreStep at stepped
  split at stepped
  · next loop serving =>
    split at stepped
    · next looped =>
      obtain rfl := Option.some.inj stepped
      exact .serve serving looped
    · contradiction
    · next looped =>
      obtain rfl := Option.some.inj stepped
      exact .leave serving looped
  · next dismissing =>
    obtain rfl := Option.some.inj stepped
    exact .dismiss dismissing
  · next dismissing =>
    obtain rfl := Option.some.inj stepped
    exact .dismissed dismissing
  · next joining =>
    split at stepped
    · contradiction
    · next idle =>
      obtain rfl := Option.some.inj stepped
      exact .join joining (Bool.eq_false_iff.mpr idle)
  · next loop draining =>
    split at stepped
    · next looped =>
      obtain rfl := Option.some.inj stepped
      exact .drain draining looped
    · contradiction
    · next looped =>
      obtain rfl := Option.some.inj stepped
      exact .close draining looped
  · contradiction

theorem step_notice {agent' : Agent ω σ} (noticed : agent.notice = some agent') :
    agent.Step B (.turn .notice) agent' := by
  unfold Agent.notice at noticed
  split at noticed
  · next serving =>
    split at noticed
    · next requested =>
      obtain rfl := Option.some.inj noticed
      exact .notice serving requested
    · contradiction
  · contradiction

theorem step_turn {turn : Turn} {agent' : Agent ω σ} (turned : agent.turn B turn = some agent') :
    agent.Step B (.turn turn) agent' := by
  cases turn with
  | core => exact step_core turned
  | notice => exact step_notice turned
  | worker index => exact step_act .step turned
  | task index => exact step_act .task turned

/-- Every move is one of the steps. -/
theorem step_move (move : Move ω) : agent.Step B move (agent.move B move) := by
  cases move with
  | turn turn =>
    simp only [Agent.move]
    cases turned : agent.turn B turn with
    | none => exact .stay fun _ same => Move.turn.inj same ▸ turned
    | some agent' => exact step_turn turned
  | crash index =>
    simp only [Agent.move]
    cases done : (agent.registry.act Thread.crash index agent.network).map agent.withWorkers with
    | none => exact .stay nofun
    | some agent' => exact step_act .crash done
  | ask request => exact .ask request
  | clock seconds => exact .clock seconds

/-- What went wrong at the launch is not forgotten. -/
theorem Step.failure {move : Move ω} {agent' : Agent ω σ} (step : agent.Step B move agent') :
    agent'.failure = agent.failure := by
  cases step <;> rfl

/-- Nothing happens to an agent that has finished but what others do to its network. -/
theorem step_of_finished {move : Move ω} {agent' : Agent ω σ} (finished : agent.phase = .finished)
    (nobody : agent.registry.slots = []) (step : agent.Step B move agent') :
    agent' = agent ∨
      (∃ request, move = .ask request ∧
        agent' = agent.withNetwork (Network.perform request agent.network).2) ∨
      ∃ seconds, agent' = agent.withNetwork
        { agent.network with
          context := { agent.network.context with uptimeSeconds := seconds } } := by
  cases step with
  | stay => exact .inl rfl
  | act found =>
    rw [nobody] at found
    contradiction
  | serve serving => exact nomatch finished.symm.trans serving
  | leave serving => exact nomatch finished.symm.trans serving
  | notice serving => exact nomatch finished.symm.trans serving
  | dismiss dismissing => exact nomatch finished.symm.trans dismissing
  | dismissed dismissing => exact nomatch finished.symm.trans dismissing
  | join joining => exact nomatch finished.symm.trans joining
  | drain draining => exact nomatch finished.symm.trans draining
  | close draining => exact nomatch finished.symm.trans draining
  | ask request => exact .inr (.inl ⟨request, rfl, rfl⟩)
  | clock seconds => exact .inr (.inr ⟨seconds, rfl⟩)

/-! ## Invariants -/

/-- What holds at first and is kept by every move of some kind, holds after all moves. -/
theorem moves_induction {allowed : Move ω → Prop} {P : Agent ω σ → Prop}
    (kept : ∀ {agent agent' : Agent ω σ} {move : Move ω}, P agent → allowed move →
      agent.Step B move agent' → P agent')
    (held : P agent) {moves : List (Move ω)} (every : ∀ move ∈ moves, allowed move) :
    P (agent.moves B moves) := by
  induction moves generalizing agent with
  | nil => exact held
  | cons move rest ih =>
    rw [List.forall_mem_cons] at every
    exact ih (kept held every.1 (step_move move)) every.2

end Agent

end AgentBus
