import AgentBus.Proofs.Agent.Moves
import AgentBus.Proofs.Worker.States

/-!
# Everyone on an endpoint of their own

The workers of a running agent are `Placed`: each has an endpoint of its own, none has the core's,
and a thread has the mailbox of its endpoint as long as it has not panicked. So whatever the others
do, they spare the endpoint of a worker (`Agent.Placed.spares`).
-/

namespace AgentBus

variable {ω σ : Type}

/-! ## Slots -/

namespace Slot

/-- What belongs to a worker is on the worker's endpoint, with the mailbox. -/
structure Placed (net : Network ω) (slot : Slot ω σ) : Prop where
  context : ∀ {context : WorkerContext σ}, slot.context = some context →
    slot.endpoint = some context.own ∧ net.Serves context.own
  thread : ∀ {thread : Thread ω σ}, slot.thread = some thread →
    slot.context = none ∧ slot.endpoint = some thread.own ∧ thread.Stands net

variable {net net' : Network ω} {slot : Slot ω σ}

theorem placed_ofWorker (worker : Worker ω σ) : (ofWorker worker).Placed net :=
  ⟨nofun, nofun⟩

theorem Placed.spared (placed : slot.Placed net)
    (spares : ∀ e, slot.endpoint = some e → Network.Spares e net net') : slot.Placed net' := by
  constructor
  · intro context has
    obtain ⟨own, serves⟩ := placed.context has
    exact ⟨own, (spares _ own).serves serves⟩
  · intro thread has
    obtain ⟨gone, own, stands⟩ := placed.thread has
    exact ⟨gone, own, stands.spared (spares _ own)⟩

theorem Placed.withThread {thread : Thread ω σ} (gone : slot.context = none)
    (own : slot.endpoint = some thread.own) (stands : thread.Stands net) :
    Placed net { slot with thread := some thread } := by
  refine ⟨fun {context} has => ?_, ?_⟩
  · rw [gone] at has
    contradiction
  · rintro _ ⟨⟩
    exact ⟨gone, own, stands⟩

theorem Placed.start (placed : slot.Placed net) : slot.start.Placed net := by
  obtain same | ⟨worker, context, -, -, has, same⟩ := slot.start_cases
  · rw [same]
    exact placed
  · obtain ⟨own, serves⟩ := placed.context has
    rw [same]
    refine ⟨nofun, ?_⟩
    rintro _ ⟨⟩
    exact ⟨rfl, own, fun _ => serves, nofun⟩

theorem Placed.join (placed : slot.Placed net) : slot.join.Placed net := by
  obtain ⟨same, -⟩ | ⟨thread, code, has, returned, same⟩ | ⟨thread, -, -, same⟩ := slot.join_cases
  · rw [same]
    exact placed
  · obtain ⟨_, own, stands⟩ := placed.thread has
    rw [same]
    refine ⟨?_, nofun⟩
    rintro _ ⟨⟩
    exact ⟨own, stands.serves (by rw [returned]; nofun)⟩
  · rw [same]
    exact ⟨placed.context, nofun⟩

end Slot

/-! ## Agents -/

namespace Agent

/-- The endpoints of the core and the workers are apart, and each slot is placed on its own. -/
structure Placed (agent : Agent ω σ) : Prop where
  apart : (agent.core.own :: agent.registry.endpoints).Nodup
  slot : ∀ {index : Nat} {slot : Slot ω σ}, agent.registry.slots[index]? = some slot →
    slot.Placed agent.network

variable {B : Behaviour ω σ} {agent agent' : Agent ω σ} {index other : Nat} {slot : Slot ω σ}
variable {e : EndpointId}

theorem mem_endpoints (found : agent.registry.slots[index]? = some slot)
    (own : slot.endpoint = some e) : e ∈ agent.registry.endpoints :=
  List.mem_filterMap.mpr ⟨slot, List.mem_of_getElem? found, own⟩

theorem Placed.ne_core (placed : agent.Placed) (found : agent.registry.slots[index]? = some slot)
    (own : slot.endpoint = some e) : agent.core.own ≠ e := by
  rintro rfl
  exact (List.nodup_cons.mp placed.apart).1 (mem_endpoints found own)

theorem Placed.ne_of_ne (placed : agent.Placed) {slot' : Slot ω σ} {e' : EndpointId}
    (found : agent.registry.slots[index]? = some slot) (own : slot.endpoint = some e)
    (found' : agent.registry.slots[other]? = some slot') (own' : slot'.endpoint = some e')
    (different : index ≠ other) : e ≠ e' := by
  have apart := (List.nodup_cons.mp placed.apart).2
  -- The endpoints of the slots are apart in pairs, the earlier slot first
  rw [Registry.endpoints, List.Nodup, List.pairwise_filterMap, List.pairwise_iff_getElem] at apart
  obtain ⟨bound, rfl⟩ := List.getElem?_eq_some_iff.mp found
  obtain ⟨bound', rfl⟩ := List.getElem?_eq_some_iff.mp found'
  rcases Nat.lt_or_gt_of_ne different with before | behind
  · exact apart index other bound bound' before e own e' own'
  · exact (apart other index bound' bound behind e' own' e own).symm

/-! ### Steps -/

theorem Acts.keepsTo {allowed : EndpointId → BusRequest ω → Prop} {thread after : Thread ω σ}
    {net net' : Network ω} {move : Move ω} (acts : Acts B index thread net move after net')
    (makes : B.Makes allowed) (common : BusRequest.Common (allowed thread.own))
    (phase : thread.phase.Makes (allowed thread.own)) :
    Thread.Keeps allowed thread after net net' := by
  cases acts with
  | step stepped => exact Thread.keeps_step makes common phase stepped
  | task stepped => exact Thread.keeps_taskStep phase stepped
  | crash stepped => exact Thread.keeps_crash stepped

/-- What the thread of a worker does, whatever the worker is. -/
theorem Acts.keeps {thread after : Thread ω σ} {net net' : Network ω} {move : Move ω}
    (acts : Acts B index thread net move after net') :
    Thread.Keeps (fun _ _ => True) thread after net net' :=
  acts.keepsTo B.makes_anything BusRequest.common_anything thread.phase.makes_anything

/-- After a panic a thread does not act any more. -/
theorem Acts.not_panicked {thread after : Thread ω σ} {net net' : Network ω} {move : Move ω}
    (acts : Acts B index thread net move after net') : thread.phase ≠ .panicked := by
  intro panicked
  cases acts with
  | step stepped => simp [Thread.step, panicked] at stepped
  | task stepped => simp [Thread.taskStep, panicked] at stepped
  | crash stepped => simp [Thread.crash, Thread.isAtWork, panicked] at stepped

theorem Acts.stands {thread after : Thread ω σ} {net net' : Network ω} {move : Move ω}
    (acts : Acts B index thread net move after net') (stands : thread.Stands net) :
    after.Stands net' := by
  have kept := acts.keeps
  have going := acts.not_panicked
  constructor
  · intro still
    rw [kept.own]
    exact kept.serves still (stands.serves going)
  · intro draining
    rw [kept.own]
    cases acts with
    | step stepped =>
      -- A thread that begins to drain has just torn its endpoint down
      rcases Thread.isDraining_step stepped draining with already | rfl
      · exact kept.touch.isTearingDown (stands.down already)
      · exact Network.isTearingDown_tearDown (stands.serves going)
    | task stepped => simp [Thread.isDraining_taskStep stepped] at draining
    | crash stepped => simp [Thread.isDraining, Thread.phase_crash stepped] at draining

/-- A slot that shows the same as the one before it leaves what the slots show. -/
theorem filterMap_set {β : Type} {shows : Slot ω σ → Option β} {slots : List (Slot ω σ)}
    {slot' : Slot ω σ} (found : slots[index]? = some slot) (same : shows slot' = shows slot) :
    (slots.set index slot').filterMap shows = slots.filterMap shows := by
  obtain ⟨bound, rfl⟩ := List.getElem?_eq_some_iff.mp found
  have unchanged : (slots.set index slot').map shows = slots.map shows := by
    rw [List.map_set, same, ← List.getElem_map shows, List.set_getElem_self]
    rw [List.length_map]
    exact bound
  have flat (slots : List (Slot ω σ)) : slots.filterMap shows = (slots.map shows).filterMap id := by
    rw [List.filterMap_map]
    rfl
  rw [flat, unchanged, ← flat]

theorem Placed.act (placed : agent.Placed) {thread after : Thread ω σ} {net : Network ω}
    {move : Move ω} (found : agent.registry.slots[index]? = some slot)
    (running : slot.thread = some thread)
    (acts : Acts B index thread agent.network move after net) :
    (agent.withSlot index { slot with thread := some after } net).Placed := by
  obtain ⟨gone, own, stands⟩ := (placed.slot found).thread running
  have kept := acts.keeps
  constructor
  · have same : (agent.withSlot index { slot with thread := some after } net).registry.endpoints =
        agent.registry.endpoints := filterMap_set found rfl
    rw [same]
    exact placed.apart
  · intro other slot' found'
    obtain ⟨rfl, rfl⟩ | ⟨different, old⟩ := Registry.slots_set_eq_some found'
    · exact .withThread gone (own.trans (congrArg some kept.own.symm)) (acts.stands stands)
    · -- What a worker does on its own endpoint spares those on others
      apply (placed.slot old).spared
      intro e' own'
      exact kept.touch.spares (placed.ne_of_ne found own old own' (Ne.symm different))

/-- The workers and their endpoints are left alone. -/
structure Apart (agent agent' : Agent ω σ) : Prop where
  registry : agent'.registry = agent.registry
  own : agent'.core.own = agent.core.own
  spares : ∀ e, agent.core.own ≠ e → Network.Spares e agent.network agent'.network

/-- The core may do on its own endpoint what it likes. -/
theorem apart_loop {site : Site ω CoreHandler} {work : Work ω CoreHandler}
    {phase : AgentPhase ω} (kept : Loop.Keeps (fun _ _ => True) agent.site site work) :
    agent.Apart { agent.after site with phase } :=
  ⟨rfl, kept.own, fun _ other => kept.touch.spares other⟩

/-- What a move means to the workers. -/
inductive WorkersStep (B : Behaviour ω σ) (agent : Agent ω σ) : Move ω → Agent ω σ → Prop where
  | act {index : Nat} {slot : Slot ω σ} {thread after : Thread ω σ} {net : Network ω}
      {move : Move ω} : agent.registry.slots[index]? = some slot → slot.thread = some thread →
      Acts B index thread agent.network move after net →
      WorkersStep B agent move (agent.withSlot index { slot with thread := some after } net)
  | apart {move : Move ω} {agent' : Agent ω σ} :
      (∀ index, move = .turn (.worker index) → agent.turn B (.worker index) = none) →
      agent.Apart agent' → WorkersStep B agent move agent'
  | join : agent.phase = .joining → agent.registry.isBusy = false →
      WorkersStep B agent (.turn .core)
        { agent with
          registry := agent.registry.stop
          network := agent.network.tearDown agent.core.own
          phase := .draining (.draining agent.core.drain.idleIterations.toNat) }
  | close {loop : Loop ω CoreHandler} {how : LoopEnd} {site : Site ω CoreHandler} :
      agent.phase = .draining loop → loop.step CoreHandler.behaviour agent.site = .ended how site →
      WorkersStep B agent (.turn .core) ((agent.after site).close B)

theorem Step.workers {move : Move ω} (step : agent.Step B move agent') :
    agent.WorkersStep B move agent' := by
  cases step with
  | stay idle => exact .apart (fun index => idle _) ⟨rfl, rfl, fun _ _ => .of_same rfl⟩
  | act found running acts => exact .act found running acts
  | @serve loop next site serving looped =>
    exact .apart nofun (apart_loop (Loop.keeps_step looped (Behaviour.makes_anything _)
      BusRequest.common_anything loop.work.makes_anything))
  | leave serving looped => exact .apart nofun (apart_loop (Loop.keeps_ended looped))
  | notice => exact .apart nofun ⟨rfl, rfl, fun _ _ => .of_same rfl⟩
  | dismiss => exact .apart nofun ⟨rfl, rfl, fun _ _ => .send _ _ _⟩
  | dismissed => exact .apart nofun ⟨rfl, rfl, fun _ _ => .of_same rfl⟩
  | join joining idle => exact .join joining idle
  | @drain loop next site draining looped =>
    exact .apart nofun (apart_loop (Loop.keeps_step looped (Behaviour.makes_anything _)
      BusRequest.common_anything loop.work.makes_anything))
  | close draining looped => exact .close draining looped
  | ask request => exact .apart nofun ⟨rfl, rfl, fun _ _ => .perform request⟩
  | clock seconds => exact .apart nofun ⟨rfl, rfl, fun _ _ => .of_same rfl⟩

theorem Placed.core (placed : agent.Placed) (apart : agent.Apart agent') : agent'.Placed := by
  constructor
  · rw [apart.own, apart.registry]
    exact placed.apart
  · rw [apart.registry]
    intro index slot found
    apply (placed.slot found).spared
    intro e has
    exact apart.spares e (placed.ne_core found has)

theorem endpoints_map (registry : Registry ω σ) {f : Slot ω σ → Slot ω σ}
    (same : ∀ slot, (f slot).endpoint = slot.endpoint) :
    Registry.endpoints ⟨registry.slots.map f⟩ = registry.endpoints := by
  rw [Registry.endpoints, Registry.endpoints, List.filterMap_map]
  exact congrArg (List.filterMap · registry.slots) (funext same)

theorem Placed.mapSlots (placed : agent.Placed) {f : Slot ω σ → Slot ω σ}
    (same : ∀ slot, (f slot).endpoint = slot.endpoint)
    (kept : ∀ {slot : Slot ω σ} {net : Network ω}, slot.Placed net → (f slot).Placed net)
    {phase : AgentPhase ω} {net : Network ω}
    (spares : ∀ e, Network.Spares e agent.network net) :
    Agent.Placed
      { agent with registry := ⟨agent.registry.slots.map f⟩, network := net, phase } := by
  constructor
  · show (agent.core.own :: Registry.endpoints ⟨agent.registry.slots.map f⟩).Nodup
    rw [endpoints_map _ same]
    exact placed.apart
  · intro index slot found
    have mapped : (agent.registry.slots.map f)[index]? = some slot := found
    rw [List.getElem?_map] at mapped
    obtain ⟨old, found', rfl⟩ := Option.map_eq_some_iff.mp mapped
    exact kept ((placed.slot found').spared fun e _ => spares e)

theorem Placed.step {move : Move ω} (placed : agent.Placed) (step : agent.Step B move agent') :
    agent'.Placed := by
  cases step.workers with
  | act found running acts => exact placed.act found running acts
  | apart _ apart => exact placed.core apart
  | join => exact placed.mapSlots Slot.endpoint_join Slot.Placed.join fun _ => .tearDown _
  | close => exact ⟨List.pairwise_singleton _ _, nofun⟩

end Agent

end AgentBus
