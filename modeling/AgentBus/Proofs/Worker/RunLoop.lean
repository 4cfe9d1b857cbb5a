import AgentBus.Proofs.Worker.Duty

/-!
# What a worker's loop leaves behind

A worker serves its mailbox up to an exit message, tears its endpoint down and drains it. Whatever
its handlers and other threads do meanwhile, the messages that were queued are those that it
handled, in order, and after them those that it released. Three things hold at every point of it:

* `Ledger` — every message that was sent is handled, released, in hand or in the queue, or was
  refused.
* `Marked` — the flag is set from the first time that it was set, and no dispatch begins then.
* `Stops` — nothing is handled after an exit message, and a drain ends with the queue empty.

`run_loop_settles` puts them together.
-/

namespace AgentBus

/-! ## What was released -/

@[simp] def Occurrence.releasing? : Occurrence → Option Message
  | .released _ message => some message
  | _ => none

/-- The messages that were released unseen after they had been queued. -/
def releasings (history : List Occurrence) : List Message :=
  history.filterMap Occurrence.releasing?

@[simp] theorem releasings_snoc (history : List Occurrence) (occurrence : Occurrence) :
    releasings (history ++ [occurrence]) =
      releasings history ++ occurrence.releasing?.toList := by
  cases occurrence <;> simp [releasings]

/-! ## The ledger -/

namespace Stage

/-- The messages that were taken and are still in hand. -/
def held : Stage → List Message
  | .idle => []
  | .taken message => [message]
  | .offering message => [message]

/-- The messages that are being offered to the handlers. -/
def offered : Stage → List Message
  | .idle => []
  | .taken _ => []
  | .offering message => [message]

@[simp] theorem held_idle : Stage.idle.held = [] := rfl

@[simp] theorem held_taken (message : Message) : (Stage.taken message).held = [message] := rfl

@[simp] theorem held_offering (message : Message) : (Stage.offering message).held = [message] := rfl

@[simp] theorem offered_idle : Stage.idle.offered = [] := rfl

@[simp] theorem offered_taken (message : Message) : (Stage.taken message).offered = [] := rfl

@[simp] theorem offered_offering (message : Message) :
    (Stage.offering message).offered = [message] := rfl

end Stage

namespace Duty

def stage : Duty → Stage
  | .loop _ stage => stage
  | .leaving => .idle
  | .returned => .idle

@[simp] theorem stage_loop (mode : LoopMode) (stage : Stage) :
    (Duty.loop mode stage).stage = stage :=
  rfl

@[simp] theorem stage_leaving : Duty.leaving.stage = .idle := rfl

@[simp] theorem stage_returned : Duty.returned.stage = .idle := rfl

end Duty

/-- Where the messages are that were sent to the endpoint of a worker. -/
structure Ledger (duty : Duty) (endpoint : Endpoint) (history : List Occurrence) : Prop where
  order : (arrivals history).map Prod.snd =
    handlings history ++ (releasings history ++ (duty.stage.held ++ endpoint.queue.toList))
  begun : beginnings history = handlings history ++ duty.stage.offered
  released : releasings history ≠ [] → endpoint.tearingDown = true ∧ duty.stage.offered = []
  balance : (sendings history).length = endpoint.dispatched + endpoint.dropped +
    (duty.stage.held.length + endpoint.queue.toList.length)

namespace Ledger

variable {duty : Duty} {endpoint : Endpoint} {history : List Occurrence}

/-- Nothing that tells of messages has happened. -/
theorem silent {duty' : Duty} (ledger : Ledger duty endpoint history)
    (stage : duty'.stage = duty.stage) : Ledger duty' endpoint (history ++ []) := by
  rw [List.append_nil]
  exact ⟨stage ▸ ledger.order, stage ▸ ledger.begun, stage ▸ ledger.released,
    stage ▸ ledger.balance⟩

/-- The flag is set. -/
theorem tornDown {e : EndpointId} {duty' : Duty} (ledger : Ledger duty endpoint history)
    (stage : duty'.stage = duty.stage) :
    Ledger duty' { endpoint with tearingDown := true } (history ++ [.tornDown e]) where
  order := by simpa [stage] using ledger.order
  begun := by simpa [stage] using ledger.begun
  released := by
    intro some
    rw [stage]
    exact ⟨rfl, (ledger.released (by simpa using some)).2⟩
  balance := by simpa [stage] using ledger.balance

/-- A message was sent and appended. -/
theorem queued {e : EndpointId} {thread : ThreadId} {message : Message}
    (ledger : Ledger duty endpoint history) :
    Ledger duty (endpoint.enqueue message)
      (history ++ [.sent thread e message, .appended thread e message]) := by
  obtain ⟨order, begun, released, balance⟩ := ledger
  have sent : sendings (history ++ [.sent thread e message, .appended thread e message]) =
      sendings history ++ [(thread, message)] := List.filterMap_append
  have arrived : arrivals (history ++ [.sent thread e message, .appended thread e message]) =
      arrivals history ++ [(thread, message)] := List.filterMap_append
  have began : beginnings (history ++ [.sent thread e message, .appended thread e message]) =
      beginnings history := by simp [beginnings]
  have handled : handlings (history ++ [.sent thread e message, .appended thread e message]) =
      handlings history := by simp [handlings]
  have shed : releasings (history ++ [.sent thread e message, .appended thread e message]) =
      releasings history := by simp [releasings]
  refine ⟨?_, by rw [began, handled, begun], by rw [shed]; exact released, ?_⟩
  · rw [arrived, handled, shed, List.map_append, order, Endpoint.enqueue, Queue.toList_push]
    simp
  · rw [sent, List.length_append, balance]
    simp only [Endpoint.enqueue, Queue.toList_push, List.length_append, List.length_singleton]
    omega

/-- A message that was offered has been handled. Nothing was released before it. -/
theorem handled {e : EndpointId} {duty' : Duty} {message : Message}
    (ledger : Ledger duty endpoint history) (offering : duty.stage = .offering message)
    (idle : duty'.stage = .idle) :
    Ledger duty' { endpoint with dispatched := endpoint.dispatched + 1 }
      (history ++ [.handled e message]) := by
  obtain ⟨order, begun, released, balance⟩ := ledger
  have none : releasings history = [] := by simpa [offering] using released
  rw [offering] at order begun balance
  refine ⟨by simp [order, none, idle], by simpa [idle] using begun, by simp [none], ?_⟩
  rw [idle]
  simp at balance ⊢
  omega

theorem step {e : EndpointId} {limit : Nat} {duty' : Duty} {endpoint' : Endpoint}
    {occurrences : List Occurrence} (ledger : Ledger duty endpoint history)
    (step : DutyStep e limit duty endpoint occurrences duty' endpoint') :
    Ledger duty' endpoint' (history ++ occurrences) := by
  cases step with
  | quiet => exact ledger.silent rfl
  | polled => exact ledger.silent rfl
  | stopped => exact ledger.silent rfl
  | drained => exact ledger.silent rfl
  | tornDown => exact ledger.tornDown rfl
  | left => exact ledger.tornDown rfl
  | handled => exact ledger.handled rfl rfl
  | exited => exact ledger.handled rfl rfl
  | refused down =>
    obtain ⟨order, begun, released, balance⟩ := ledger
    refine ⟨by simpa using order, by simpa using begun, by simpa using released, ?_⟩
    simp at balance ⊢
    omega
  | queued => exact ledger.queued
  | took queue =>
    obtain ⟨order, begun, released, balance⟩ := ledger
    rw [queue] at order balance
    refine ⟨by simpa using order, by simpa using begun, by simpa using released, ?_⟩
    simp at balance ⊢
    omega
  | released down =>
    obtain ⟨order, begun, released, balance⟩ := ledger
    refine ⟨by simp [order], by simpa using begun, fun _ => ⟨down, rfl⟩, ?_⟩
    simp at balance ⊢
    omega
  | began up =>
    -- The flag is not set, so nothing was released
    obtain ⟨order, begun, released, balance⟩ := ledger
    have none : releasings history = [] := by simpa [up] using released
    exact ⟨by simpa using order, by simpa using begun, by simp [none], by simpa using balance⟩

end Ledger

/-! ## The flag -/

/-- The flag is set from the first time that it was set, and no dispatch begins then. -/
structure Marked (e : EndpointId) (down : Bool) (history : List Occurrence) : Prop where
  cut : TeardownCut e down history
  set : down = true → .tornDown e ∈ history

namespace Marked

variable {e : EndpointId} {down : Bool} {history : List Occurrence}

theorem snoc (marked : Marked e down history) {occurrence : Occurrence}
    (other : occurrence ≠ .tornDown e) (silent : down = true → occurrence.beginning? = none) :
    Marked e down (history ++ [occurrence]) where
  cut := marked.cut.snoc (fun set => set.elim id fun same => (other same).elim) silent
  set isDown := List.mem_append_left _ (marked.set isDown)

theorem tornDown (marked : Marked e down history) : Marked e true (history ++ [.tornDown e]) where
  cut := marked.cut.snoc (fun _ => rfl) fun _ => rfl
  set _ := List.mem_append_right _ (List.mem_singleton.mpr rfl)

theorem step {limit : Nat} {duty duty' : Duty} {endpoint endpoint' : Endpoint}
    {occurrences : List Occurrence} (marked : Marked e endpoint.tearingDown history)
    (step : DutyStep e limit duty endpoint occurrences duty' endpoint') :
    Marked e endpoint'.tearingDown (history ++ occurrences) := by
  cases step with
  | quiet | polled | stopped | drained => rwa [List.append_nil]
  | tornDown => exact marked.tornDown
  | left => exact marked.tornDown
  | @queued _ _ thread message =>
    rw [List.append_cons]
    have sent : Marked e endpoint.tearingDown (history ++ [.sent thread e message]) :=
      marked.snoc nofun fun _ => rfl
    exact sent.snoc nofun fun _ => rfl
  | began up =>
    refine marked.snoc nofun fun down => ?_
    rw [up] at down
    contradiction
  | refused | took | released | handled | exited => exact marked.snoc nofun fun _ => rfl

/-- All dispatches began before the flag was set for the first time. -/
theorem split {trace : List Occurrence} (marked : Marked e true (heard e trace)) :
    ∃ before after, trace = before ++ .tornDown e :: after ∧ .tornDown e ∉ before ∧
      beginnings (heard e trace) = beginnings (heard e before) := by
  obtain ⟨before, after, rfl, first⟩ :=
    List.eq_append_cons_of_mem (List.mem_filter.mp (marked.set rfl)).1
  refine ⟨before, after, rfl, first, ?_⟩
  have shown : heard e (before ++ .tornDown e :: after) =
      heard e before ++ .tornDown e :: heard e after := by
    rw [heard_append, heard, heard, List.filter_cons_of_pos (by simp [Occurrence.endpoint])]
    rfl
  have late : beginnings (heard e after) = [] := (shown ▸ marked.cut).beginnings_eq_nil
  rw [shown, beginnings, List.filterMap_append]
  exact (congrArg _ late).trans (List.append_nil _)

end Marked

/-! ## Where it stops -/

/-- How a worker stands that has handled these messages. -/
def Duty.Stands (limit : Nat) (endpoint : Endpoint) (handled : List Message) : Duty → Prop
  | .loop .serving _ => ∀ message ∈ handled, message.isExit = false
  | .loop (.draining enough idle _) stage =>
    enough = limit ∧ endpoint.tearingDown = true ∧ stage.offered = [] ∧
      (0 < idle → endpoint.queue.toList = [])
  | .leaving => True
  | .returned => endpoint.tearingDown = true ∧ endpoint.queue.toList = []

/-- Once the flag is set, the queue does not grow, so whatever others do, a worker stands as it
did. -/
theorem Duty.Stands.others {limit : Nat} {endpoint endpoint' : Endpoint} {handled : List Message}
    {duty : Duty} (stands : duty.Stands limit endpoint handled)
    (down : endpoint.tearingDown = true → endpoint'.tearingDown = true)
    (queue : endpoint.tearingDown = true → endpoint'.queue = endpoint.queue) :
    duty.Stands limit endpoint' handled := by
  cases duty with
  | loop mode stage =>
    cases mode with
    | serving => exact stands
    | draining enough idle taken =>
      obtain ⟨same, isDown, silent, empty⟩ := stands
      exact ⟨same, down isDown, silent, queue isDown ▸ empty⟩
  | leaving => exact stands
  | returned =>
    obtain ⟨isDown, empty⟩ := stands
    exact ⟨down isDown, queue isDown ▸ empty⟩

/-- Nothing was handled after an exit message. -/
structure Stops (limit : Nat) (duty : Duty) (endpoint : Endpoint) (handled : List Message) :
    Prop where
  exits : ∀ message ∈ handled.dropLast, message.isExit = false
  stands : duty.Stands limit endpoint handled

namespace Stops

variable {limit : Nat} {duty duty' : Duty} {endpoint endpoint' : Endpoint} {handled : List Message}

/-- Nothing was handled. -/
theorem silent (exits : ∀ message ∈ handled.dropLast, message.isExit = false)
    (stands : duty.Stands limit endpoint handled) : Stops limit duty endpoint (handled ++ []) := by
  rw [List.append_nil]
  exact ⟨exits, stands⟩

theorem step {e : EndpointId} {occurrences : List Occurrence} (polls : 1 ≤ limit)
    (stops : Stops limit duty endpoint handled)
    (step : DutyStep e limit duty endpoint occurrences duty' endpoint') :
    Stops limit duty' endpoint' (handled ++ handlings occurrences) := by
  obtain ⟨exits, stands⟩ := stops
  cases step with
  | quiet => exact .silent exits stands
  | refused => exact .silent exits (stands.others id fun _ => rfl)
  | queued up =>
    -- A queue grows only while the flag is not set
    have up' : ¬endpoint.tearingDown = true := ne_true_of_eq_false up
    exact .silent exits (stands.others (absurd · up') (absurd · up'))
  | tornDown => exact .silent exits (stands.others (fun _ => rfl) fun _ => rfl)
  | @took mode =>
    cases mode with
    | serving => exact .silent exits stands
    | draining enough idle taken =>
      obtain ⟨same, down, _, _⟩ := stands
      exact .silent exits ⟨same, down, rfl, nofun⟩
  | polled empty =>
    obtain ⟨same, down, _, _⟩ := stands
    exact .silent exits ⟨same, down, rfl, fun _ => empty⟩
  | @released mode =>
    cases mode with
    | serving => exact .silent exits stands
    | draining enough idle taken =>
      obtain ⟨same, down, _, empty⟩ := stands
      exact .silent exits ⟨same, down, rfl, empty⟩
  | @began mode _ _ up =>
    cases mode with
    | serving => exact .silent exits stands
    | draining enough idle taken =>
      -- A drain releases what it finds
      obtain ⟨_, down, _, _⟩ := stands
      rw [up] at down
      contradiction
  | @handled mode _ message stays =>
    cases mode with
    | serving =>
      have none : ∀ past ∈ handled ++ [message], past.isExit = false := by
        intro past member
        obtain before | last := List.mem_append.mp member
        · exact stands past before
        · rw [List.mem_singleton.mp last]
          exact stays rfl
      exact ⟨fun past member => none past (List.dropLast_subset _ member), none⟩
    | draining enough idle taken =>
      obtain ⟨_, _, silent, _⟩ := stands
      contradiction
  | @exited _ message =>
    -- It is the last one; none of those before it was an exit message
    refine ⟨fun past member => stands past ?_, trivial⟩
    rwa [show handlings [.handled e message] = [message] from rfl, List.dropLast_concat] at member
  | stopped => exact .silent exits trivial
  | left => exact .silent exits ⟨rfl, rfl, rfl, nofun⟩
  | drained enough =>
    -- At least one poll found the queue empty, and it has not grown since
    obtain ⟨rfl, down, _, empty⟩ := stands
    exact .silent exits ⟨down, empty (Nat.lt_of_lt_of_le polls enough)⟩

end Stops

theorem Message.upToExit_eq_self {messages : List Message}
    (exits : ∀ message ∈ messages.dropLast, message.isExit = false) :
    upToExit messages = messages := by
  induction messages with
  | nil => rfl
  | cons message rest ih =>
    cases rest with
    | nil =>
      rw [upToExit]
      split <;> rfl
    | cons next rest =>
      rw [List.dropLast_cons_cons, List.forall_mem_cons] at exits
      rw [upToExit, exits.1, ih exits.2]
      rfl

/-! ## All runs -/

/-- What holds of a worker in its loop, and of its endpoint, at every point of a run. -/
structure Settling (e : EndpointId) (limit : Nat) (duty : Duty) (endpoint : Endpoint)
    (history : List Occurrence) : Prop where
  served : endpoint.served = true
  ledger : Ledger duty endpoint history
  marked : Marked e endpoint.tearingDown history
  stops : Stops limit duty endpoint (handlings history)

namespace Settling

variable {e : EndpointId} {limit : Nat} {duty duty' : Duty} {endpoint endpoint' : Endpoint}
  {history occurrences : List Occurrence}

theorem start (e : EndpointId) (limit : Nat) (name : String) :
    Settling e limit (.loop .serving .idle) { name } [] where
  served := rfl
  ledger := ⟨rfl, rfl, fun some => (some rfl).elim, rfl⟩
  marked := ⟨⟨nofun, .nil⟩, nofun⟩
  stops := ⟨nofun, nofun⟩

theorem step (polls : 1 ≤ limit) (settling : Settling e limit duty endpoint history)
    (step : DutyStep e limit duty endpoint occurrences duty' endpoint') :
    Settling e limit duty' endpoint' (history ++ occurrences) where
  served := step.served ▸ settling.served
  ledger := settling.ledger.step step
  marked := settling.marked.step step
  stops := by
    rw [handlings, List.filterMap_append]
    exact settling.stops.step polls step

end Settling

namespace Thread

variable {context : WorkerContext σ} {thread : Thread ω σ} {net net' : Network ω} {name : String}
  {trace : List Occurrence}

theorem Run.settling (fresh : net.endpoint? context.own = some { name })
    (polls : 1 ≤ context.drain.idleIterations)
    (run : Run B (.serving context []) net trace thread net') :
    thread.own = context.own ∧ thread.drainLimit = context.drain.idleIterations.toNat ∧
      ∃ duty endpoint, thread.phase.duty? = some duty ∧
        net'.endpoint? context.own = some endpoint ∧
        Settling context.own context.drain.idleIterations.toNat duty endpoint
          (heard context.own trace) := by
  induction run with
  | nil => exact ⟨rfl, rfl, _, _, rfl, fresh, .start _ _ _⟩
  | snoc _ step ih =>
    obtain ⟨own, limit, duty, endpoint, stands, found, settling⟩ := ih
    rw [← own] at found
    obtain ⟨own', limit', duty', endpoint', stands', found', dutyStep⟩ :=
      dutyStep_of_step found settling.served stands step
    rw [own, limit] at dutyStep
    rw [own] at found'
    refine ⟨own'.trans own, limit'.trans limit, duty', endpoint', stands', found', ?_⟩
    rw [heard_append]
    exact settling.step (UInt32.le_iff_toNat_le.mp polls) dutyStep

end Thread

/-- Whenever a worker's loop returns that began at a fresh endpoint, whatever its handlers and other
threads did meanwhile: the messages that it handled are the first ones that were queued, in this
order. They are those whose dispatch had begun when the endpoint was first marked, and if there is
an exit message among them, they are the messages up to it. All others that were queued were
released and never offered to the handlers. The endpoint is tearing down, its queue is empty, and
every message that was sent to it is counted as dispatched or as dropped. -/
theorem run_loop_settles {context : WorkerContext σ} {thread : Thread ω σ} {net net' : Network ω}
    {name : String} {trace : List Occurrence} {code : Int32}
    (fresh : net.endpoint? context.own = some { name })
    (polls : 1 ≤ context.drain.idleIterations)
    (run : Thread.Run B (.serving context []) net trace thread net')
    (returned : thread.phase = .returned code) :
    handlings (heard context.own trace) <+: (arrivals (heard context.own trace)).map Prod.snd ∧
      (∃ before after, trace = before ++ .tornDown context.own :: after ∧
        .tornDown context.own ∉ before ∧
        handlings (heard context.own trace) = beginnings (heard context.own before) ∧
        ((beginnings (heard context.own before)).any Message.isExit = true →
          handlings (heard context.own trace) =
            Message.upToExit ((arrivals (heard context.own trace)).map Prod.snd))) ∧
      (arrivals (heard context.own trace)).map Prod.snd =
        handlings (heard context.own trace) ++ releasings (heard context.own trace) ∧
      beginnings (heard context.own trace) = handlings (heard context.own trace) ∧
      ∃ endpoint, net'.endpoint? context.own = some endpoint ∧ endpoint.tearingDown = true ∧
        endpoint.queue.toList = [] ∧
        endpoint.dispatched + endpoint.dropped = (sendings (heard context.own trace)).length := by
  obtain ⟨_, _, duty, endpoint, stands, found, settling⟩ := run.settling fresh polls
  rw [returned] at stands
  obtain rfl := Option.some.inj stands
  obtain ⟨down, empty⟩ := settling.stops.stands
  have order := settling.ledger.order
  have begun := settling.ledger.begun
  have balance := settling.ledger.balance
  have marked := settling.marked
  rw [down] at marked
  simp only [empty, Duty.stage_returned, Stage.held_idle, Stage.offered_idle, List.append_nil,
    List.length_nil, Nat.add_zero] at order begun balance
  obtain ⟨before, after, split, first, early⟩ := marked.split
  have handled : handlings (heard context.own trace) = beginnings (heard context.own before) :=
    begun.symm.trans early
  refine ⟨order ▸ List.prefix_append _ _, ⟨before, after, split, first, handled, fun exit => ?_⟩,
    order, begun, endpoint, found, down, empty, balance.symm⟩
  rw [← handled] at exit
  rw [order, Message.upToExit_append exit, Message.upToExit_eq_self settling.stops.exits]

/-! ### A run -/

/-- A handler that sends an event to its own endpoint whenever it is called. -/
def lagging : Behaviour Unit Unit :=
  .handling (fun _ => "lagging") fun _ handler message =>
    .ask (Sum.inl (.send (.ofPayload (.event "late")) ⟨0⟩ ⟨0⟩)) fun _ =>
      .done ⟨handler, message, none⟩

def laggingContext : WorkerContext Unit where
  mailbox := { endpoint := ⟨0⟩, chain := (({} : Chain Unit).register ()).2 }
  core := ⟨1⟩
  drain := { idleIterations := 1 }

def laggingNetwork : Network Unit :=
  { endpoints := [{ name := "lagging" }] }

def lastMessage : Message := (Message.ofPayload .exit).routed ⟨1⟩ ⟨0⟩

def lateMessage : Message := (Message.ofPayload (.event "late")).routed ⟨0⟩ ⟨0⟩

/-- An exit message is sent and handled, and then the event behind it is released. -/
def laggingTrace : List Occurrence :=
  [.sent (.other 0) ⟨0⟩ lastMessage, .appended (.other 0) ⟨0⟩ lastMessage, .took ⟨0⟩ lastMessage,
    .began ⟨0⟩ lastMessage, .sent (.owner ⟨0⟩) ⟨0⟩ lateMessage,
    .appended (.owner ⟨0⟩) ⟨0⟩ lateMessage, .handled ⟨0⟩ lastMessage, .tornDown ⟨0⟩,
    .took ⟨0⟩ lateMessage, .released ⟨0⟩ lateMessage]

theorem run_lagging : ∃ thread net',
    Thread.Run lagging (.serving laggingContext []) laggingNetwork laggingTrace thread net' ∧
      thread.phase = .returned 0 := by
  have start : Thread.Run lagging (.serving laggingContext []) laggingNetwork [] _ _ := .nil
  -- Another thread sends, and from then on the worker is alone
  have sent := start.snoc (.request 0 (.send (.ofPayload .exit) ⟨1⟩ ⟨0⟩))
  have took := sent.snoc (.own rfl)
  have began := took.snoc (.own rfl)
  have asked := began.snoc (.own rfl)
  have exited := asked.snoc (.own rfl)
  have left := exited.snoc (.own rfl)
  have tookLate := left.snoc (.own rfl)
  have released := tookLate.snoc (.own rfl)
  have polled := released.snoc (.own rfl)
  have returned := polled.snoc (.own rfl)
  exact ⟨_, _, returned, rfl⟩

theorem run_loop_settles_lagging :
    ∃ thread net',
      Thread.Run lagging (.serving laggingContext []) laggingNetwork laggingTrace thread net' ∧
      thread.phase = .returned 0 ∧
      (arrivals (heard ⟨0⟩ laggingTrace)).map Prod.snd = [lastMessage] ++ [lateMessage] ∧
      beginnings (heard ⟨0⟩ laggingTrace) = [lastMessage] ∧
      ∃ endpoint, net'.endpoint? ⟨0⟩ = some endpoint ∧ endpoint.tearingDown = true ∧
        endpoint.queue.toList = [] ∧ endpoint.dispatched + endpoint.dropped = 2 := by
  obtain ⟨thread, net', run, returned⟩ := run_lagging
  obtain ⟨-, -, order, begun, settled⟩ := run_loop_settles rfl (by decide) run returned
  exact ⟨thread, net', run, returned, order, begun, settled⟩

end AgentBus
