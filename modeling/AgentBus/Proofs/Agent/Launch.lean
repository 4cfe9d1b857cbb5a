import AgentBus.Proofs.Agent.Placed

/-!
# Bringing an agent up

A worker is brought up on a network to which its endpoint was enrolled: created and published. That
spares everything there was before, so by the end all workers are on endpoints of their own, and an
agent that was launched is `Placed` (`Agent.placed_session`), whatever moves it makes afterwards.
-/

namespace AgentBus

variable {ω σ : Type} {B : Behaviour ω σ}

/-! ## Workers -/

section BringUp

variable (worker : Worker ω σ) (context : WorkerContext σ) (net : Network ω)

theorem WorkerContext.spares_bringUp (e : EndpointId) :
    Network.Spares e net (context.bringUp B worker net).2.2 :=
  (Network.Spares.run (worker.init context.post)).trans (.run _)

theorem WorkerContext.names_bringUp :
    (context.bringUp B worker net).2.2.endpoints.map Endpoint.name =
      net.endpoints.map Endpoint.name :=
  (Network.names_run _).trans (Network.names_run (worker.init context.post))

end BringUp

namespace Slot

/-- The context with which a worker is brought up. -/
def fresh (core : EndpointId) (net : Network ω) : WorkerContext σ :=
  { mailbox := { endpoint := net.nextId }, core, drain := net.context.config.bus }

/-- What the `init` of a worker returns when the worker is brought up. -/
def setup (core : EndpointId) (worker : Worker ω σ) (net : Network ω) : Setup σ :=
  ((worker.init ⟨net.nextId, core⟩).run Network.perform (net.enroll worker.name core)).1

variable (B : Behaviour ω σ) (core : EndpointId) (worker : Worker ω σ) (net : Network ω)

/-- What a worker was brought up with. -/
def upbringing : Option WorkerError × WorkerContext σ × Network ω :=
  (fresh core net).bringUp B worker (net.enroll worker.name core)

/-- The slot of a worker that was prepared. -/
def raised : Slot ω σ :=
  { ofWorker worker with
    state := .prepared
    context := some (upbringing B core worker net).2.1
    endpoint := some net.nextId }

/-- The network on which a worker was brought up. -/
def raising : Network ω :=
  (upbringing B core worker net).2.2

theorem prepare_ofWorker :
    (ofWorker worker).prepare B core net =
      ((setup core worker net).failure.map (WorkerError.notPrepared worker.name),
        raised B core worker net, raising B core worker net) :=
  rfl

theorem endpoint_raised : (raised B core worker net).endpoint = some net.nextId :=
  rfl

theorem placed_raised : (raised B core worker net).Placed (raising B core worker net) := by
  refine ⟨?_, nofun⟩
  rintro _ ⟨⟩
  refine ⟨rfl, ?_⟩
  -- Neither `init` nor the handlers' `start` can take the new endpoint down
  exact (WorkerContext.spares_bringUp worker (fresh core net) _ _).serves
    (Network.serves_enroll worker.name core)

theorem spares_raising (e : EndpointId) :
    Network.Spares e net (raising B core worker net) :=
  (Network.Spares.enroll _ _).trans (WorkerContext.spares_bringUp worker (fresh core net) _ e)

theorem names_raising :
    (raising B core worker net).endpoints.map Endpoint.name =
      net.endpoints.map Endpoint.name ++ [worker.name] :=
  (WorkerContext.names_bringUp worker (fresh core net) _).trans (Network.names_enroll _ _)

theorem length_raising :
    (raising B core worker net).endpoints.length = net.endpoints.length + 1 := by
  have names := congrArg List.length (names_raising B core worker net)
  rw [List.length_map, List.length_append, List.length_map] at names
  exact names

end Slot

/-! ## All workers -/

namespace Registry

/-- What the `init` of each worker returns that is called, one after the other. -/
def setups (B : Behaviour ω σ) (core : EndpointId) :
    List (Worker ω σ) → Network ω → List (Setup σ)
  | [], _ => []
  | worker :: rest, net =>
    Slot.setup core worker net ::
      match (Slot.setup core worker net).failure with
      | some _ => []
      | none => setups B core rest (Slot.raising B core worker net)

/-- Workers are prepared in order, up to the first whose `init` fails. -/
inductive Walk (B : Behaviour ω σ) (core : EndpointId) :
    List (Worker ω σ) → Network ω → List (Setup σ) → Option WorkerError → List (Slot ω σ) →
    Network ω → Prop where
  | nil {net : Network ω} : Walk B core [] net [] none [] net
  | fails {worker : Worker ω σ} {rest : List (Worker ω σ)} {net : Network ω} {cause : WorkerError} :
      (Slot.setup core worker net).failure = some cause →
      Walk B core (worker :: rest) net [Slot.setup core worker net]
        (some (.notPrepared worker.name cause))
        (Slot.raised B core worker net :: rest.map Slot.ofWorker) (Slot.raising B core worker net)
  | goes {worker : Worker ω σ} {rest : List (Worker ω σ)} {net net' : Network ω}
      {setups : List (Setup σ)} {failure : Option WorkerError} {slots : List (Slot ω σ)} :
      (Slot.setup core worker net).failure = none →
      Walk B core rest (Slot.raising B core worker net) setups failure slots net' →
      Walk B core (worker :: rest) net (Slot.setup core worker net :: setups) failure
        (Slot.raised B core worker net :: slots) net'

theorem walk_prepareSlots (B : Behaviour ω σ) (core : EndpointId) (workers : List (Worker ω σ))
    (net : Network ω) :
    Walk B core workers net (setups B core workers net)
      (prepareSlots B core (workers.map Slot.ofWorker) net).1
      (prepareSlots B core (workers.map Slot.ofWorker) net).2.1
      (prepareSlots B core (workers.map Slot.ofWorker) net).2.2 := by
  induction workers generalizing net with
  | nil => exact .nil
  | cons worker rest ih =>
    rw [List.map_cons, prepareSlots, Slot.prepare_ofWorker, setups]
    cases failed : (Slot.setup core worker net).failure with
    | some cause => exact .fails failed
    | none => exact .goes failed (ih _)

section Walks

variable {core : EndpointId} {workers : List (Worker ω σ)} {net net' : Network ω}
variable {setups : List (Setup σ)} {failure : Option WorkerError} {slots : List (Slot ω σ)}

/-- Each worker that was prepared is on a new endpoint. None has a thread yet. -/
structure Raised (workers : List (Worker ω σ)) (net : Network ω) (slots : List (Slot ω σ))
    (net' : Network ω) : Prop where
  spares : ∀ e, Network.Spares e net net'
  placed : ∀ slot ∈ slots, slot.Placed net'
  endpoints : ∃ count,
    slots.filterMap Slot.endpoint = (List.range' net.endpoints.length count).map EndpointId.mk
  held : ∀ slot ∈ slots, slot.thread = none ∧ ∃ worker ∈ workers, slot.worker = some worker

theorem filterMap_ofWorker (workers : List (Worker ω σ)) :
    (workers.map Slot.ofWorker).filterMap Slot.endpoint = [] := by
  rw [List.filterMap_map]
  exact List.filterMap_eq_nil_iff.mpr fun _ _ => rfl

theorem Walk.raised (walk : Walk B core workers net setups failure slots net') :
    Raised workers net slots net' := by
  induction walk with
  | nil =>
    exact ⟨fun _ => .of_same rfl, List.forall_mem_nil _, ⟨0, rfl⟩, List.forall_mem_nil _⟩
  | @fails worker rest net cause failed =>
    refine ⟨Slot.spares_raising B core worker net,
      List.forall_mem_cons.mpr ⟨Slot.placed_raised B core worker net, ?_⟩, ⟨1, ?_⟩,
      List.forall_mem_cons.mpr ⟨⟨rfl, worker, List.mem_cons_self, rfl⟩, ?_⟩⟩
    · intro slot member
      obtain ⟨later, _, rfl⟩ := List.mem_map.mp member
      exact Slot.placed_ofWorker later
    · rw [List.filterMap_cons_some (Slot.endpoint_raised B core worker net), filterMap_ofWorker]
      rfl
    · intro slot member
      obtain ⟨later, member', rfl⟩ := List.mem_map.mp member
      exact ⟨rfl, later, List.mem_cons_of_mem _ member', rfl⟩
  | @goes worker rest net net' setups failure slots went _ ih =>
    obtain ⟨spares, placed, ⟨count, endpoints⟩, held⟩ := ih
    refine ⟨fun e => (Slot.spares_raising B core worker net e).trans (spares e),
      List.forall_mem_cons.mpr ⟨?_, placed⟩, ⟨count + 1, ?_⟩,
      List.forall_mem_cons.mpr ⟨⟨rfl, worker, List.mem_cons_self, rfl⟩, ?_⟩⟩
    · exact (Slot.placed_raised B core worker net).spared fun e _ => spares e
    · -- The network has one endpoint more when the others are brought up
      rw [List.filterMap_cons_some (Slot.endpoint_raised B core worker net), endpoints,
        List.range'_succ, Slot.length_raising]
      rfl
    · intro slot member
      obtain ⟨idle, later, member', has⟩ := held slot member
      exact ⟨idle, later, List.mem_cons_of_mem _ member', has⟩

/-- `init` is called of workers in order, up to the first where it fails. -/
structure UpToFailure (workers : List (Worker ω σ)) (setups : List (Setup σ))
    (failure : Option WorkerError) : Prop where
  bound : setups.length ≤ workers.length
  fine : failure = none →
    setups.length = workers.length ∧ ∀ setup ∈ setups, setup.failure = none
  failed : ∀ error, failure = some error → ∃ before last worker cause,
    setups = before ++ [last] ∧ (∀ setup ∈ before, setup.failure = none) ∧
      last.failure = some cause ∧ workers[before.length]? = some worker ∧
      error = .notPrepared worker.name cause

theorem Walk.upToFailure (walk : Walk B core workers net setups failure slots net') :
    UpToFailure workers setups failure := by
  induction walk with
  | nil => exact ⟨Nat.le_refl _, fun _ => ⟨rfl, List.forall_mem_nil _⟩, fun _ some => nomatch some⟩
  | @fails worker rest net cause failed =>
    refine ⟨Nat.succ_le_succ (Nat.zero_le _), fun none => (nomatch none), ?_⟩
    rintro error ⟨⟩
    exact ⟨[], _, worker, cause, rfl, List.forall_mem_nil _, failed, rfl, rfl⟩
  | @goes worker rest net net' setups failure slots went _ ih =>
    refine ⟨Nat.succ_le_succ ih.bound, ?_, ?_⟩
    · intro none
      obtain ⟨length, fine⟩ := ih.fine none
      exact ⟨congrArg Nat.succ length, List.forall_mem_cons.mpr ⟨went, fine⟩⟩
    · intro error some
      obtain ⟨before, last, failing, cause, rfl, fine, failed, found, rfl⟩ := ih.failed error some
      exact ⟨_ :: before, last, failing, cause, rfl, List.forall_mem_cons.mpr ⟨went, fine⟩, failed,
        found, rfl⟩

theorem UpToFailure.isSome_iff (upTo : UpToFailure workers setups failure) :
    failure.isSome = true ↔ ∃ setup ∈ setups, setup.failure.isSome = true := by
  cases same : failure with
  | none =>
    refine ⟨fun some => (nomatch some), ?_⟩
    rintro ⟨setup, member, failed⟩
    rw [(upTo.fine same).2 setup member] at failed
    contradiction
  | some error =>
    obtain ⟨before, last, worker, cause, rfl, -, failed, -⟩ := upTo.failed error same
    exact ⟨fun _ => ⟨last, List.mem_append_right _ List.mem_cons_self, by rw [failed]; rfl⟩,
      fun _ => rfl⟩

/-- The workers whose `init` was called are prepared, and the others only registered. -/
theorem Walk.states (walk : Walk B core workers net setups failure slots net') :
    slots.length = workers.length ∧ ∀ (index : Nat) (slot : Slot ω σ),
      slots[index]? = some slot →
        slot.state = if index < setups.length then .prepared else .registered := by
  induction walk with
  | nil => exact ⟨rfl, fun _ _ found => nomatch found⟩
  | @fails worker rest net cause failed =>
    refine ⟨congrArg Nat.succ (List.length_map _), ?_⟩
    rintro (_ | index) slot found
    · obtain rfl := Option.some.inj found
      rfl
    · rw [List.getElem?_cons_succ, List.getElem?_map] at found
      obtain ⟨later, -, rfl⟩ := Option.map_eq_some_iff.mp found
      rw [if_neg (by simp)]
      rfl
  | @goes worker rest net net' setups failure slots went _ ih =>
    -- Both the slots and the calls go on by one
    refine ⟨congrArg Nat.succ ih.1, ?_⟩
    rintro (_ | index) slot found
    · obtain rfl := Option.some.inj found
      rfl
    · rw [ih.2 index slot found]
      simp only [List.length_cons, Nat.succ_lt_succ_iff]

end Walks

end Registry

/-! ## Agents -/

namespace Agent

variable {config : Config} {workers : List (Worker ω σ)}

/-- An agent without workers whose core is ready. -/
def foundation (config : Config) : Agent ω σ :=
  let agent : Agent ω σ := create config
  agent.after (agent.site.startHandlers CoreHandler.behaviour true)

theorem foldl_register (agent : Agent ω σ) :
    workers.foldl register agent =
      { agent with registry := ⟨agent.registry.slots ++ workers.map Slot.ofWorker⟩ } := by
  induction workers generalizing agent with
  | nil => simp
  | cons worker rest ih => simp [ih, register, Registry.register]

/-- What preparing the workers of an agent leads to. -/
def prepared (B : Behaviour ω σ) (config : Config) (workers : List (Worker ω σ)) :
    Option WorkerError × List (Slot ω σ) × Network ω :=
  Registry.prepareSlots B ⟨0⟩ (workers.map Slot.ofWorker) (foundation config : Agent ω σ).network

theorem launch_eq :
    (workers.foldl register (create config)).launch B =
      match (prepared B config workers).1 with
      | some error =>
        { (foundation config : Agent ω σ) with
          registry := ⟨(prepared B config workers).2.1⟩
          network := (prepared B config workers).2.2
          failure := some error
          phase := dismissal (⟨(prepared B config workers).2.1⟩ : Registry ω σ) }
      | none =>
        { (foundation config : Agent ω σ) with
          registry := Registry.start ⟨(prepared B config workers).2.1⟩
          network := (prepared B config workers).2.2
          phase := .serving .serving } := by
  rw [foldl_register]
  rfl

def setups (B : Behaviour ω σ) (config : Config) (workers : List (Worker ω σ)) : List (Setup σ) :=
  Registry.setups B ⟨0⟩ workers (foundation config : Agent ω σ).network

theorem walk_prepared (B : Behaviour ω σ) (config : Config) (workers : List (Worker ω σ)) :
    Registry.Walk B ⟨0⟩ workers (foundation config : Agent ω σ).network (setups B config workers)
      (prepared B config workers).1 (prepared B config workers).2.1
      (prepared B config workers).2.2 :=
  Registry.walk_prepareSlots B ⟨0⟩ workers _

theorem raised_prepared (B : Behaviour ω σ) (config : Config) (workers : List (Worker ω σ)) :
    Registry.Raised workers (foundation config : Agent ω σ).network (prepared B config workers).2.1
      (prepared B config workers).2.2 :=
  (walk_prepared B config workers).raised

theorem apart_prepared (B : Behaviour ω σ) (config : Config) (workers : List (Worker ω σ)) :
    (⟨0⟩ :: Registry.endpoints ⟨(prepared B config workers).2.1⟩).Nodup := by
  obtain ⟨count, endpoints⟩ := (raised_prepared B config workers).endpoints
  rw [Registry.endpoints, endpoints]
  -- The workers' endpoints are numbered on from the core's
  have apart : ((List.range' 0 (count + 1)).map EndpointId.mk).Nodup := by
    rw [List.Nodup, List.pairwise_map]
    exact (List.pairwise_lt_range' 1).imp fun less same =>
      Nat.ne_of_lt less (EndpointId.mk.inj same)
  exact apart

theorem placed_launch : ((workers.foldl register (create config)).launch B).Placed := by
  have apart := apart_prepared B config workers
  have placed := (raised_prepared B config workers).placed
  rw [launch_eq]
  split
  · exact ⟨apart, fun found => placed _ (List.mem_of_getElem? found)⟩
  · constructor
    · rw [← endpoints_map _ Slot.endpoint_start] at apart
      exact apart
    · intro index slot found
      obtain ⟨old, member, rfl⟩ := List.mem_map.mp (List.mem_of_getElem? found)
      exact (placed old member).start

/-- Whatever moves an agent makes, its workers stay on endpoints of their own. -/
theorem placed_session (B : Behaviour ω σ) (config : Config) (workers : List (Worker ω σ))
    (moves : List (Move ω)) : (session B config workers moves).Placed :=
  moves_induction (fun placed _ step => placed.step step) placed_launch fun _ _ => trivial

end Agent

end AgentBus
