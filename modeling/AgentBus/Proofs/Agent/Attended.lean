import AgentBus.Proofs.Agent.Launch
import AgentBus.Proofs.Worker.Serving

/-!
# The threads of a running agent

`Agent.After` lists what a move can do to the thread of a worker: the thread acts, it is left alone,
or it has ended and is joined. From this follows how a thread that serves goes on
(`Attended.onward`), and that one which has stopped serving does not begin again.
-/

namespace AgentBus

variable {ω σ : Type} {B : Behaviour ω σ}

/-! ## Single threads -/

/-- A thread that has a message to offer can make a step. -/
theorem Thread.offers_of_stuck {thread : Thread ω σ} {net : Network ω}
    (stuck : thread.step B net = none) : thread.offers net = none := by
  obtain ⟨worker, context, phase⟩ := thread
  cases phase with
  | opening main => cases main <;> contradiction
  | looping loop task code =>
    obtain ⟨mode, work⟩ := loop
    cases work with
    | free => rfl
    | taken message =>
      cases down : (context.site net).isTearingDown with
      | true => simp [step, Loop.step, down] at stuck
      | false => simp [step, Loop.step, down] at stuck
    | offering message pass => rfl
  | leaving code => rfl
  | returned code => rfl
  | panicked => rfl

theorem Thread.ended_of_hasEnded {thread : Thread ω σ} (ended : thread.hasEnded = true) :
    thread.isServing = false := by
  obtain ⟨worker, context, phase⟩ := thread
  cases phase with
  | returned code => rfl
  | panicked => rfl
  | opening main => contradiction
  | looping loop task code => contradiction
  | leaving code => contradiction

theorem Slot.thread_join {slot : Slot ω σ} (idle : slot.isBusy = false) :
    slot.join.thread = none := by
  obtain ⟨same, none | busy⟩ | ⟨_, _, _, _, same⟩ | ⟨_, _, _, same⟩ := slot.join_cases
  · rw [same, none]
  · exact nomatch idle.symm.trans busy
  · rw [same]
  · rw [same]

/-- A move in which nobody panics. -/
def Move.IsCalm (move : Move ω) : Prop :=
  ∀ index, move ≠ .crash index

theorem Move.isCalm_turn (turn : Turn) : (Move.turn turn : Move ω).IsCalm :=
  fun _ => nofun

namespace Agent

variable {agent agent' : Agent ω σ} {index : Nat} {thread : Thread ω σ} {move : Move ω}

/-- The thread of the worker at a position, if it is not joined. -/
def thread? (agent : Agent ω σ) (index : Nat) : Option (Thread ω σ) :=
  agent.registry.slots[index]?.bind Slot.thread

theorem thread?_eq_some : agent.thread? index = some thread ↔
    ∃ slot, agent.registry.slots[index]? = some slot ∧ slot.thread = some thread :=
  Option.bind_eq_some_iff

/-- The threads that run can change only in their own slots. -/
theorem thread?_withSlot {slot : Slot ω σ} (found : agent.registry.slots[index]? = some slot)
    (slot' : Slot ω σ) (net : Network ω) (other : Nat) :
    (agent.withSlot index slot' net).thread? other =
      if index = other then slot'.thread else agent.thread? other := by
  unfold thread? withSlot
  split
  · next same =>
    subst same
    rw [Registry.slots_set_self found]
    rfl
  · next different => rw [List.getElem?_set_ne different]

theorem Placed.stands (placed : agent.Placed) (running : agent.thread? index = some thread) :
    thread.Stands agent.network := by
  obtain ⟨slot, found, running⟩ := thread?_eq_some.mp running
  exact ((placed.slot found).thread running).2.2

theorem turn_worker_of_none (running : agent.thread? index = some thread)
    (idle : agent.turn B (.worker index) = none) : thread.step B agent.network = none := by
  obtain ⟨slot, found, running⟩ := thread?_eq_some.mp running
  simpa [turn, Registry.step, Registry.act, found, running] using idle

/-- What becomes of the thread of a worker in a move. -/
inductive After (B : Behaviour ω σ) (agent : Agent ω σ) (index : Nat) (thread : Thread ω σ)
    (move : Move ω) (agent' : Agent ω σ) : Prop where
  | act {after : Thread ω σ} : Acts B index thread agent.network move after agent'.network →
      agent'.thread? index = some after → After B agent index thread move agent'
  | spared : (move = .turn (.worker index) → thread.step B agent.network = none) →
      agent'.thread? index = some thread →
      Network.Spares thread.own agent.network agent'.network →
      After B agent index thread move agent'
  | joined : move = .turn .core → thread.isServing = false → agent'.thread? index = none →
      After B agent index thread move agent'

theorem Acts.index_eq {after : Thread ω σ} {net net' : Network ω}
    (acts : Acts B index thread net move after net') {other : Nat}
    (same : move = .turn (.worker other)) : index = other := by
  cases acts with
  | step => exact Turn.worker.inj (Move.turn.inj same)
  | task => exact nomatch same
  | crash => exact nomatch same

theorem thread?_join (idle : agent.registry.isBusy = false) {net : Network ω}
    {phase : AgentPhase ω} (index : Nat) :
    thread? { agent with registry := agent.registry.stop, network := net, phase } index = none := by
  rw [thread?, Registry.stop, List.getElem?_map]
  cases found : agent.registry.slots[index]? with
  | none => rfl
  | some slot =>
    apply Slot.thread_join
    rw [Registry.isBusy, List.any_eq_false] at idle
    exact Bool.eq_false_iff.mpr (idle slot (List.mem_of_getElem? found))

theorem after_step (placed : agent.Placed) (running : agent.thread? index = some thread)
    (draining : ∀ loop, agent.phase = .draining loop → thread.isServing = false)
    (step : agent.Step B move agent') : agent.After B index thread move agent' := by
  cases step.workers with
  | @act other slot thread' after net move found running' acts =>
    by_cases same : other = index
    · subst same
      have has : agent.thread? other = some thread' := thread?_eq_some.mpr ⟨slot, found, running'⟩
      obtain rfl := Option.some.inj (running.symm.trans has)
      refine .act acts ?_
      rw [thread?_withSlot found, if_pos rfl]
    · -- Another worker works on another endpoint
      obtain ⟨slot', found', running''⟩ := thread?_eq_some.mp running
      have own := ((placed.slot found).thread running').2.1
      have own' := ((placed.slot found').thread running'').2.1
      refine .spared (fun turn => absurd (acts.index_eq turn) same) ?_
        (acts.keeps.touch.spares (placed.ne_of_ne found own found' own' same))
      rw [thread?_withSlot found, if_neg same]
      exact running
  | apart idle apart =>
    obtain ⟨slot, found, has⟩ := thread?_eq_some.mp running
    refine .spared (fun same => turn_worker_of_none running (idle _ same)) ?_ ?_
    · rw [thread?, apart.registry]
      exact running
    · exact apart.spares _ (placed.ne_core found ((placed.slot found).thread has).2.1)
  | join _ idle =>
    refine .joined rfl ?_ (thread?_join idle index)
    obtain ⟨slot, found, has⟩ := thread?_eq_some.mp running
    rw [Registry.isBusy, List.any_eq_false] at idle
    have ended := idle slot (List.mem_of_getElem? found)
    rw [Slot.isBusy, has, Option.any_some, Bool.not_eq_true, Bool.not_eq_false'] at ended
    exact Thread.ended_of_hasEnded ended
  | close closing => exact .joined rfl (draining _ closing) rfl

/-- No thread comes from nowhere. -/
theorem thread?_of_none (gone : agent.thread? index = none) (step : agent.Step B move agent') :
    agent'.thread? index = none := by
  cases step.workers with
  | @act other slot thread' after net move found running acts =>
    have has : agent.thread? other = some thread' := thread?_eq_some.mpr ⟨slot, found, running⟩
    rw [thread?_withSlot found, if_neg (by rintro rfl; exact nomatch gone.symm.trans has)]
    exact gone
  | apart _ apart =>
    rw [thread?, apart.registry]
    exact gone
  | join _ idle => exact thread?_join idle index
  | close => rfl

/-! ## Agents whose workers serve -/

/-- The core has seen all threads end. -/
def isClosing (agent : Agent ω σ) : Bool :=
  match agent.phase with
  | .draining _ => true
  | .finished => true
  | _ => false

/-- The workers are on endpoints of their own, their threads go on to serve, and all have ended
before the core drains. -/
structure Attended (agent : Agent ω σ) : Prop where
  placed : agent.Placed
  steady : ∀ {index : Nat} {thread : Thread ω σ}, agent.thread? index = some thread → thread.Steady
  gone : agent.isClosing = true → ∀ index, agent.thread? index = none

theorem Attended.after (attended : agent.Attended) (running : agent.thread? index = some thread)
    (step : agent.Step B move agent') : agent.After B index thread move agent' := by
  refine after_step attended.placed running (fun loop draining => ?_) step
  have gone := attended.gone (by rw [isClosing, draining]) index
  exact nomatch gone.symm.trans running

theorem Attended.step (attended : agent.Attended) (step : agent.Step B move agent') :
    agent'.Attended := by
  have still (before : agent.isClosing = true) (index : Nat) : agent'.thread? index = none :=
    thread?_of_none (attended.gone before index) step
  refine ⟨attended.placed.step step, fun {index thread} running => ?_, fun closing index => ?_⟩
  · cases has : agent.thread? index with
    | none => exact nomatch (thread?_of_none has step).symm.trans running
    | some before =>
      cases attended.after has step with
      | act acts running' =>
        obtain rfl := Option.some.inj (running'.symm.trans running)
        cases acts with
        | step stepped => exact Thread.steady_step (attended.steady has) stepped
        | task stepped => exact Thread.steady_taskStep stepped
        | crash stepped => exact Thread.steady_crash stepped
      | spared _ running' =>
        obtain rfl := Option.some.inj (running'.symm.trans running)
        exact attended.steady has
      | joined _ _ gone => exact nomatch gone.symm.trans running
  · -- The core goes on to drain only when no thread is busy
    cases step with
    | stay => exact still closing index
    | act => exact still closing index
    | serve => contradiction
    | leave => contradiction
    | notice => contradiction
    | dismiss => contradiction
    | dismissed => contradiction
    | join _ idle => exact thread?_join idle index
    | drain draining => exact still (by rw [isClosing, draining]) index
    | close => rfl
    | ask => exact still closing index
    | clock => exact still closing index

/-! ### Launched agents -/

theorem attended_launch {config : Config} {workers : List (Worker ω σ)}
    (serve : ∀ worker ∈ workers, worker.Serves) :
    ((workers.foldl register (create config)).launch B).Attended := by
  have held := (raised_prepared B config workers).held
  have placed : ((workers.foldl register (create config)).launch B).Placed := placed_launch
  refine ⟨placed, fun {index thread} running => ?_, ?_⟩
  · rw [launch_eq] at running
    split at running
    · obtain ⟨slot, found, has⟩ := thread?_eq_some.mp running
      exact nomatch (held slot (List.mem_of_getElem? found)).1.symm.trans has
    · obtain ⟨slot, found, has⟩ := thread?_eq_some.mp running
      obtain ⟨old, member, rfl⟩ := List.mem_map.mp (List.mem_of_getElem? found)
      obtain ⟨idle, worker, registered, same⟩ := held old member
      -- Only a start makes a thread, and it spawns the worker that was registered
      obtain stays | ⟨_, _, _, has', _, started⟩ := old.start_cases
      · rw [stays, idle] at has
        contradiction
      · rw [started] at has
        obtain rfl := Option.some.inj has
        obtain rfl := Option.some.inj (same.symm.trans has')
        exact Thread.steady_spawn (serve worker registered) _
  · rw [launch_eq]
    split
    · exact nofun
    · exact nofun

theorem attended_session (B : Behaviour ω σ) (config : Config) {workers : List (Worker ω σ)}
    (serve : ∀ worker ∈ workers, worker.Serves) (moves : List (Move ω)) :
    (session B config workers moves).Attended :=
  moves_induction (fun attended _ step => attended.step step) (attended_launch serve)
    fun _ _ => trivial

/-! ## Threads that serve -/

/-- Whether the worker at a position has not stopped serving. -/
def isServing (agent : Agent ω σ) (index : Nat) : Bool :=
  (agent.thread? index).any Thread.isServing

theorem isServing_iff : agent.isServing index = true ↔
    ∃ thread, agent.thread? index = some thread ∧ thread.isServing = true := by
  rw [isServing, Option.any_eq_true]

/-- The message that a move begins to offer to the chain of the worker at a position. -/
def offersAt (agent : Agent ω σ) (index : Nat) : Move ω → Option Message
  | .turn (.worker other) =>
    if other = index then (agent.thread? index).bind fun thread => thread.offers agent.network
    else none
  | _ => none

theorem offersAt_of_ne (other : move ≠ .turn (.worker index)) :
    agent.offersAt index move = none := by
  unfold offersAt
  split
  · rw [if_neg (by rintro rfl; exact other rfl)]
  · rfl

theorem offersAt_worker (running : agent.thread? index = some thread) :
    agent.offersAt index (.turn (.worker index) : Move ω) = thread.offers agent.network := by
  rw [offersAt, if_pos rfl, running]
  rfl

/-- A thread that serves goes on in every move. -/
theorem Attended.onward (attended : agent.Attended) (running : agent.thread? index = some thread)
    (serving : thread.isServing = true) (calm : move.IsCalm) (step : agent.Step B move agent') :
    ∃ after, agent'.thread? index = some after ∧
      thread.Onward agent.network (agent.offersAt index move) after agent'.network := by
  have stands := attended.placed.stands running
  cases attended.after running step with
  | @act after acts running' =>
    refine ⟨after, running', ?_⟩
    cases acts with
    | step stepped =>
      rw [offersAt_worker running]
      exact Thread.onward_step (attended.steady running) stands serving stepped
    | task stepped =>
      exact Thread.onward_taskStep stands stepped
    | crash => exact absurd rfl (calm index)
  | spared idle running' spares =>
    -- It was not its turn, or it could not make a step
    refine ⟨thread, running', ?_⟩
    have silent : agent.offersAt index move = none := by
      by_cases own : move = .turn (.worker index)
      · rw [own, offersAt_worker running, Thread.offers_of_stuck (idle own)]
      · exact offersAt_of_ne own
    rw [silent]
    refine .of_spared (stands.serves ?_) rfl serving rfl spares
    intro panicked
    rw [Thread.isServing, panicked] at serving
    contradiction
  | joined _ ended => cases serving.symm.trans ended

/-- Who has stopped serving offers nothing any more, and does not serve again. -/
theorem Attended.ended (attended : agent.Attended) (ended : agent.isServing index = false)
    (step : agent.Step B move agent') :
    agent.offersAt index move = none ∧ agent'.isServing index = false := by
  cases running : agent.thread? index with
  | none =>
    rw [isServing, thread?_of_none running step]
    refine ⟨?_, rfl⟩
    by_cases own : move = .turn (.worker index)
    · rw [own, offersAt, if_pos rfl, running]
      rfl
    · exact offersAt_of_ne own
  | some thread =>
    rw [isServing, running, Option.any_some] at ended
    have silent := Thread.offers_of_ended (attended.placed.stands running) ended
    constructor
    · by_cases own : move = .turn (.worker index)
      · rw [own, offersAt_worker running, silent]
      · exact offersAt_of_ne own
    · cases attended.after running step with
      | act acts running' =>
        rw [isServing, running', Option.any_some]
        cases acts with
        | step stepped => exact Thread.ended_step ended stepped
        | task stepped => exact nomatch (Thread.serving_of_taskStep stepped).symm.trans ended
        | crash stepped => rw [Thread.isServing, Thread.phase_crash stepped]
      | spared _ running' =>
        rw [isServing, running', Option.any_some]
        exact ended
      | joined _ _ gone =>
        rw [isServing, gone]
        rfl

/-- Who serves after a move has served before it. -/
theorem Attended.before (attended : agent.Attended) (calm : move.IsCalm)
    (step : agent.Step B move agent') {after : Thread ω σ}
    (running : agent'.thread? index = some after) (serving : after.isServing = true) :
    ∃ thread, agent.thread? index = some thread ∧ thread.isServing = true ∧
      thread.Onward agent.network (agent.offersAt index move) after agent'.network := by
  cases was : agent.isServing index with
  | false =>
    have ended := (attended.ended was step).2
    rw [isServing, running, Option.any_some] at ended
    exact nomatch serving.symm.trans ended
  | true =>
    obtain ⟨thread, running', serving'⟩ := isServing_iff.mp was
    obtain ⟨after', running'', onward⟩ := attended.onward running' serving' calm step
    obtain rfl := Option.some.inj (running''.symm.trans running)
    exact ⟨thread, running', serving', onward⟩

end Agent

end AgentBus
