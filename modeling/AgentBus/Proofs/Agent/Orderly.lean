import AgentBus.Proofs.Agent.Attended
import AgentBus.Proofs.Core.Requests
import AgentBus.Proofs.Worker.Closing

/-!
# The directory of a running agent

While an agent runs, its directory lists the core and the workers that were brought up, and nobody
else (`Agent.Orderly`), as long as the workers and whoever is outside bind channels to the endpoints
of the workers that do it, at most. When the agent closes, all of them are taken off, and the
endpoints are tearing down (`Agent.Closed`). It closes in no other way: an agent that has finished
was closed (`Agent.closed_session`).
-/

namespace AgentBus

variable {ω σ : Type} {B : Behaviour ω σ}

/-! ## Requests -/

theorem BusRequest.Plain.binds {request : BusRequest ω} (plain : request.Plain)
    (owners : List EndpointId) : request.BindsTo owners := by
  cases request with
  | change made =>
    cases made with
    | takeEventId => trivial
    | requestShutdown => trivial
    | publish => exact plain.elim
    | withdraw => exact plain.elim
    | bind => exact plain.elim
  | send => trivial
  | look => trivial
  | tearDown => trivial
  | context => trivial
  | emit => trivial

/-- Nobody outside changes the directory. -/
def Move.Tidy (move : Move ω) : Prop :=
  ∀ request, move = .ask request → request.BindsTo []

/-! ## Slots -/

namespace Slot

variable {slot : Slot ω σ}

theorem listed?_join (slot : Slot ω σ) : slot.join.listed? = slot.listed? := by
  rw [listed?, listed?, endpoint_join, name_join]

theorem listed?_start (slot : Slot ω σ) : slot.start.listed? = slot.listed? := by
  rw [listed?, listed?, endpoint_start, name_start]

theorem mem_listed? {slots : List (Slot ω σ)} {index : Nat} {own : EndpointId}
    (found : slots[index]? = some slot) (has : slot.endpoint = some own) :
    own ∈ Listing.ids (Registry.listing slots) := by
  refine List.mem_map.mpr ⟨(slot.name, own), List.mem_filterMap.mpr ⟨slot, ?_, ?_⟩, rfl⟩
  · exact List.mem_of_getElem? found
  · rw [listed?, has]
    rfl

end Slot

/-! ## Agents -/

/-- The loop of the core makes plain requests in its pass. -/
def AgentPhase.Plain : AgentPhase ω → Prop
  | .serving loop => loop.work.Makes BusRequest.Plain
  | .dismissing _ => True
  | .joining => True
  | .draining loop => loop.work.Makes BusRequest.Plain
  | .finished => True

namespace Agent

variable {agent agent' : Agent ω σ} {names : List String} {move : Move ω}

/-- The core and the workers that were brought up. -/
def listing (agent : Agent ω σ) : Listing :=
  (coreName, agent.core.own) :: Registry.listing agent.registry.slots

structure Orderly (names : List String) (agent : Agent ω σ) : Prop where
  placed : agent.Placed
  going : agent.phase ≠ .finished
  serves : agent.network.Serves agent.core.own
  names : agent.network.endpoints.map Endpoint.name = names
  roster : agent.network.Roster agent.listing
  plain : agent.phase.Plain
  slots : ∀ slot ∈ agent.registry.slots, slot.Sound ∧ slot.Binds
  down : agent.isClosing = true → agent.network.isTearingDown agent.core.own = true
  gone : agent.isClosing = true → ∀ slot ∈ agent.registry.slots, slot.thread = none

structure Closed (names : List String) (agent : Agent ω σ) : Prop where
  phase : agent.phase = .finished
  registry : agent.registry.slots = []
  names : agent.network.endpoints.map Endpoint.name = names
  roster : agent.network.Roster []

/-! ### Steps of the core -/

theorem listing_of_apart (apart : agent.Apart agent') : agent'.listing = agent.listing := by
  rw [listing, listing, apart.registry, apart.own]

theorem mem_core (agent : Agent ω σ) : agent.core.own ∈ agent.listing.ids :=
  List.mem_cons_self

/-- The core does plain requests, and works on its own endpoint. -/
theorem Orderly.core (orderly : agent.Orderly names) (apart : agent.Apart agent')
    (going : agent'.phase ≠ .finished) (plain : agent'.phase.Plain)
    (serves : agent'.network.Serves agent'.core.own)
    (touch : Network.Touch BusRequest.Plain agent.core.own agent.network agent'.network)
    (closing : agent'.isClosing = true → agent.isClosing = true) : agent'.Orderly names where
  placed := orderly.placed.core apart
  going := going
  serves := serves
  names := touch.names.trans orderly.names
  roster := by
    rw [listing_of_apart apart]
    exact orderly.roster.touch (mem_core agent) (touch.mono fun _ plain => plain.binds _)
  plain := plain
  slots := by
    rw [apart.registry]
    exact orderly.slots
  down done := by
    rw [apart.own]
    exact touch.isTearingDown (orderly.down (closing done))
  gone done := by
    rw [apart.registry]
    exact orderly.gone (closing done)

theorem Orderly.loop (orderly : agent.Orderly names) {site : Site ω CoreHandler}
    {work : Work ω CoreHandler} {phase : AgentPhase ω}
    (kept : Loop.Keeps (fun _ => BusRequest.Plain) agent.site site work)
    (going : phase ≠ .finished) (plain : phase.Plain)
    (closing : ∀ loop, phase = .draining loop → agent.isClosing = true) :
    Agent.Orderly names { agent.after site with phase } := by
  have own : (agent.after site).core.own = agent.core.own := kept.own
  refine orderly.core ⟨rfl, own, fun _ other => kept.touch.spares other⟩ going plain ?_ kept.touch
    ?_
  · show site.network.Serves site.own
    rw [kept.own]
    exact kept.serves orderly.serves
  · intro done
    unfold isClosing at done
    split at done
    · next loop draining => exact closing loop draining
    · next finished => exact absurd finished going
    · contradiction

/-- Requests of others that bind no channels, and whatever time it is. -/
theorem Orderly.outside (orderly : agent.Orderly names) {net : Network ω}
    (roster : net.Roster agent.listing) (lasts : Network.Lasts agent.network net)
    (spares : ∀ e, Network.Spares e agent.network net) :
    (agent.withNetwork net).Orderly names where
  placed := orderly.placed.core ⟨rfl, rfl, fun e _ => spares e⟩
  going := orderly.going
  serves := (spares _).serves orderly.serves
  names := lasts.names.trans orderly.names
  roster := roster
  plain := orderly.plain
  slots := orderly.slots
  down done := lasts.down (orderly.down done)
  gone := orderly.gone

/-! ### Steps of the workers -/

theorem Orderly.act (makes : B.Makes BusRequest.Local) (orderly : agent.Orderly names) {index : Nat}
    {slot : Slot ω σ} {thread after : Thread ω σ} {net : Network ω}
    (found : agent.registry.slots[index]? = some slot) (running : slot.thread = some thread)
    (acts : Acts B index thread agent.network move after net) :
    (agent.withSlot index { slot with thread := some after } net).Orderly names := by
  have member := List.mem_of_getElem? found
  obtain ⟨sound, binds⟩ := orderly.slots slot member
  obtain ⟨opens, phase⟩ := binds.thread thread running
  obtain ⟨-, own, -⟩ := (orderly.placed.slot found).thread running
  have kept := acts.keepsTo makes (BusRequest.common_local _) phase
  have listing : (agent.withSlot index { slot with thread := some after } net).listing =
      agent.listing := congrArg (List.cons _) (filterMap_set found rfl)
  refine ⟨orderly.placed.act found running acts, orderly.going, ?_, ?_, ?_, orderly.plain, ?_, ?_,
    ?_⟩
  · exact (kept.touch.spares (orderly.placed.ne_core found own).symm).serves orderly.serves
  · exact kept.touch.names.trans orderly.names
  · rw [listing]
    exact orderly.roster.touch (List.mem_cons_of_mem _ (Slot.mem_listed? found own)) kept.touch
  · intro slot' member'
    rcases List.mem_or_eq_of_mem_set member' with old | rfl
    · exact orderly.slots slot' old
    · refine ⟨(Slot.Advances.of_thread sound running after).sound, binds.worker, ?_⟩
      rintro _ ⟨⟩
      rw [kept.own, kept.worker]
      exact ⟨opens, kept.phase⟩
  · exact fun done => kept.touch.isTearingDown (orderly.down done)
  · -- Nobody acts when the core is closing
    intro done
    exact nomatch running.symm.trans (orderly.gone done slot member)

theorem Orderly.join (orderly : agent.Orderly names) (idle : agent.registry.isBusy = false) :
    Agent.Orderly names
      { agent with
        registry := agent.registry.stop
        network := agent.network.tearDown agent.core.own
        phase := .draining (.draining agent.core.drain.idleIterations.toNat) } where
  placed := orderly.placed.mapSlots Slot.endpoint_join Slot.Placed.join fun _ => .tearDown _
  going := nofun
  serves := (Network.Spares.tearDown _).serves orderly.serves
  names := (Network.lasts_perform (.tearDown agent.core.own) agent.network).names.trans
    orderly.names
  roster := by
    have same : Registry.listing (agent.registry.slots.map Slot.join) =
        Registry.listing agent.registry.slots := by
      rw [Registry.listing, List.filterMap_map]
      exact congrArg (List.filterMap · agent.registry.slots) (funext Slot.listed?_join)
    have torn := orderly.roster.touch (mem_core agent) .tearDown
    rw [listing, ← same] at torn
    exact torn
  plain := trivial
  slots := by
    intro slot member
    obtain ⟨old, member', rfl⟩ := List.mem_map.mp member
    obtain ⟨sound, binds⟩ := orderly.slots old member'
    exact ⟨(Slot.advances_join sound).sound, binds.join⟩
  down _ := Network.isTearingDown_tearDown orderly.serves
  gone _ := by
    intro slot member
    obtain ⟨old, member', rfl⟩ := List.mem_map.mp member
    rw [Registry.isBusy, List.any_eq_false] at idle
    exact Slot.thread_join (Bool.eq_false_iff.mpr (idle old member'))

/-! ### The end -/

/-- What the core does at the end of its own handlers. -/
theorem keeps_finishHandlers (site : Site ω CoreHandler) :
    Loop.Keeps (fun _ => BusRequest.Plain) site (site.finishHandlers CoreHandler.behaviour).2
      (.free : Work ω CoreHandler) where
  own := rfl
  touch := .run (Chain.every_finishAll CoreHandler.makes_behaviour site.own site.mailbox.chain)
  serves := (Network.Spares.run _).serves
  work := trivial

theorem Orderly.idle (orderly : agent.Orderly names) (closing : agent.isClosing = true) :
    ∀ slot ∈ agent.registry.slots, slot.Idle := by
  intro slot member
  obtain ⟨index, found⟩ := List.getElem?_of_mem member
  obtain ⟨sound, binds⟩ := orderly.slots slot member
  exact ⟨sound, orderly.gone closing slot member, binds,
    fun context has => ((orderly.placed.slot found).context has).1⟩

/-- The network when the workers and the core are taken down. -/
def leftover (B : Behaviour ω σ) (agent : Agent ω σ) : Network ω :=
  let down := agent.registry.deinit B agent.network
  agent.core.close
    (down.1.teardown { down.2 with context := down.2.context.apply (.withdraw coreName) })

theorem Orderly.emptied (makes : B.Makes BusRequest.Local) (orderly : agent.Orderly names)
    (closing : agent.isClosing = true) :
    (leftover B agent).endpoints.map Endpoint.name = names ∧ (leftover B agent).Roster [] := by
  obtain ⟨roster, lasts, released⟩ :=
    Registry.roster_deinitSlots makes (orderly.idle closing) orderly.roster
  have down := lasts.down (orderly.down closing)
  have withdrawn := roster.withdraw List.mem_cons_self fun endpoint found =>
    (Network.isTearingDown_eq found).symm.trans down
  have nobody (own : EndpointId) : Listing.without [(coreName, own)] coreName = [] := by
    simp [Listing.without]
  rw [nobody] at withdrawn
  have nothing : leftover B agent = agent.core.close
      (Network.perform (.change (.withdraw coreName))
        (agent.registry.deinit B agent.network).2).2 :=
    congrArg agent.core.close (Registry.teardown_of_released released _)
  rw [nothing]
  constructor
  · exact (agent.core.lasts_close _).names.trans (lasts.names.trans orderly.names)
  · have closed := withdrawn.update agent.core.own
      (f := fun endpoint => { endpoint with served := false, queue := {} }) fun _ => id
    exact closed.of_same rfl rfl

theorem Orderly.close (makes : B.Makes BusRequest.Local) (orderly : agent.Orderly names)
    {loop : Loop ω CoreHandler} {how : LoopEnd} {site : Site ω CoreHandler}
    (draining : agent.phase = .draining loop)
    (ended : loop.step CoreHandler.behaviour agent.site = .ended how site) :
    ((agent.after site).close B).Closed names := by
  have closing : agent.isClosing = true := by rw [isClosing, draining]
  have ready : (agent.after site).Orderly names :=
    orderly.loop (Loop.keeps_ended ended) orderly.going orderly.plain fun _ _ => closing
  have done : ((agent.after site).after
      ((agent.after site).site.finishHandlers CoreHandler.behaviour).2).Orderly names :=
    ready.loop (keeps_finishHandlers _) ready.going ready.plain fun _ _ => closing
  obtain ⟨listed, roster⟩ := done.emptied makes closing
  exact ⟨rfl, rfl, listed, roster⟩

/-! ### All steps -/

theorem Orderly.step (makes : B.Makes BusRequest.Local) (orderly : agent.Orderly names)
    (tidy : move.Tidy) (step : agent.Step B move agent') :
    agent'.Orderly names ∨ agent'.Closed names := by
  have plain := orderly.plain
  cases step with
  | stay => exact .inl orderly
  | act found running acts => exact .inl (orderly.act makes found running acts)
  | serve serving looped =>
    rw [serving] at plain
    have kept := Loop.keeps_step looped CoreHandler.makes_behaviour BusRequest.common_plain plain
    exact .inl (orderly.loop kept nofun kept.work fun _ other => nomatch other)
  | leave serving looped => exact .inl (orderly.loop (Loop.keeps_ended looped) nofun trivial
      fun _ other => nomatch other)
  | notice =>
    exact .inl (orderly.core ⟨rfl, rfl, fun _ _ => .of_same rfl⟩ nofun trivial orderly.serves
      .nothing nofun)
  | @dismiss endpoint rest =>
    have sends : Network.Touch BusRequest.Plain agent.core.own agent.network
        (Network.perform (.send (.ofPayload .exit) agent.core.own endpoint) agent.network).2 :=
      .request .nothing trivial
    exact .inl (orderly.core ⟨rfl, rfl, fun _ _ => .send _ _ _⟩ nofun trivial
      ((Network.Spares.send _ _ _).serves orderly.serves) sends nofun)
  | dismissed =>
    exact .inl (orderly.core ⟨rfl, rfl, fun _ _ => .of_same rfl⟩ nofun trivial orderly.serves
      .nothing nofun)
  | join _ idle => exact .inl (orderly.join idle)
  | drain draining looped =>
    rw [draining] at plain
    have kept := Loop.keeps_step looped CoreHandler.makes_behaviour BusRequest.common_plain plain
    exact .inl (orderly.loop kept nofun kept.work fun _ _ => by rw [isClosing, draining])
  | close draining ended => exact .inr (orderly.close makes draining ended)
  | ask request =>
    have roster := orderly.roster.perform (List.forall_mem_nil _) (tidy request rfl)
    exact .inl (orderly.outside roster (Network.lasts_perform request _) fun _ => .perform request)
  | clock seconds =>
    exact .inl (orderly.outside (orderly.roster.of_same rfl rfl) ⟨rfl, id⟩ fun _ => .of_same rfl)

theorem Closed.step (closed : agent.Closed names) (tidy : move.Tidy)
    (step : agent.Step B move agent') : agent'.Closed names := by
  obtain ⟨finished, nobody, listed, roster⟩ := closed
  rcases step_of_finished finished nobody step with rfl | ⟨request, rfl, rfl⟩ | ⟨seconds, rfl⟩
  · exact ⟨finished, nobody, listed, roster⟩
  · exact ⟨finished, nobody, (Network.names_perform request).trans listed,
      roster.perform (List.forall_mem_nil _) (tidy request rfl)⟩
  · exact ⟨finished, nobody, listed, roster.of_same rfl rfl⟩

end Agent

/-! ## Launched agents -/

theorem Network.Roster.enroll {net : Network ω} {listing : Listing} {name : String}
    (roster : net.Roster listing) (fresh : name ∉ listing.names) (core : EndpointId) :
    (net.enroll name core).Roster (listing ++ [(name, net.nextId)]) where
  lists := roster.lists.publish fresh
  down e endpoint found := by
    have found : (net.endpoints ++ [({ name } : Endpoint)])[e.index]? = some endpoint := found
    rw [List.getElem?_append] at found
    split at found
    · refine (roster.down e endpoint found).imp id fun member => ?_
      rw [Listing.ids, List.map_append]
      exact List.mem_append_left _ member
    · -- Beyond the old endpoints there is only the new one
      right
      rw [Listing.ids, List.map_append]
      have last : e = net.nextId := by
        obtain ⟨index⟩ := e
        have bound := (List.getElem?_eq_some_iff.mp found).1
        rw [List.length_singleton] at bound
        exact congrArg EndpointId.mk (by simp only at *; omega)
      rw [last]
      exact List.mem_append_right _ List.mem_cons_self

namespace Registry

variable {core : EndpointId} {workers : List (Worker ω σ)} {net net' : Network ω}
variable {setups : List (Setup σ)} {failure : Option WorkerError} {slots : List (Slot ω σ)}

theorem listing_ofWorker (workers : List (Worker ω σ)) :
    listing (workers.map Slot.ofWorker) = [] := by
  rw [listing, List.filterMap_map]
  exact List.filterMap_eq_nil_iff.mpr fun _ _ => rfl

theorem roster_raising (makes : B.Makes BusRequest.Local) {worker : Worker ω σ}
    (opens : worker.Makes BusRequest.Local) {listed : Listing} (roster : net.Roster listed)
    (fresh : worker.name ∉ listed.names) :
    (Slot.raising B core worker net).Roster (listed ++ [(worker.name, net.nextId)]) := by
  have enrolled := roster.enroll fresh core
  refine enrolled.touch ?_ (WorkerContext.touch_bringUp makes opens (Slot.fresh core net) _)
  rw [Listing.ids, List.map_append]
  exact List.mem_append_right _ List.mem_cons_self

theorem Walk.roster (makes : B.Makes BusRequest.Local)
    (walk : Walk B core workers net setups failure slots net')
    (opens : ∀ worker ∈ workers, worker.Makes BusRequest.Local) {listed : Listing}
    (roster : net.Roster listed) (distinct : (listed.names ++ workers.map Worker.name).Nodup) :
    net'.Roster (listed ++ listing slots) := by
  -- The endpoint of the first worker comes to those that are listed already
  have first {worker : Worker ω σ} {rest : List (Worker ω σ)} {net : Network ω} {listed : Listing}
      (opens : worker.Makes BusRequest.Local) (roster : net.Roster listed)
      (distinct : (listed.names ++ (worker :: rest).map Worker.name).Nodup) :
      (Slot.raising B core worker net).Roster (listed ++ [(worker.name, net.nextId)]) :=
    roster_raising makes opens roster fun member =>
      (List.nodup_append.mp distinct).2.2 _ member _ List.mem_cons_self rfl
  induction walk generalizing listed with
  | nil =>
    rw [listing, List.filterMap_nil, List.append_nil]
    exact roster
  | fails =>
    rw [List.forall_mem_cons] at opens
    rw [listing_cons, listing_ofWorker]
    exact first opens.1 roster distinct
  | goes _ _ ih =>
    rw [List.forall_mem_cons] at opens
    rw [listing_cons, ← List.append_assoc]
    refine ih opens.2 (first opens.1 roster distinct) ?_
    rw [Listing.names, List.map_append, List.append_assoc]
    exact distinct

theorem Walk.names (walk : Walk B core workers net setups failure slots net') :
    net'.endpoints.map Endpoint.name =
      net.endpoints.map Endpoint.name ++ (workers.take setups.length).map Worker.name := by
  induction walk with
  | nil => exact (List.append_nil _).symm
  | fails => exact Slot.names_raising B core _ _
  | goes _ _ ih =>
    rw [ih, Slot.names_raising, List.append_assoc]
    rfl

theorem Walk.fresh (walk : Walk B core workers net setups failure slots net')
    (opens : ∀ worker ∈ workers, worker.Makes BusRequest.Local) :
    ∀ slot ∈ slots, slot.Sound ∧ slot.Binds := by
  have held {slot : Slot ω σ} {worker : Worker ω σ} (has : slot.worker = some worker)
      (idle : slot.thread = none) (opens : worker.Makes BusRequest.Local) : slot.Binds := by
    refine ⟨?_, ?_⟩
    · rw [has]
      rintro _ ⟨⟩
      exact opens
    · rw [idle]
      exact fun _ has => nomatch has
  induction walk with
  | nil => exact List.forall_mem_nil _
  | fails =>
    rw [List.forall_mem_cons] at opens
    refine List.forall_mem_cons.mpr ⟨⟨.prepared, held rfl rfl opens.1⟩, ?_⟩
    intro slot member
    obtain ⟨later, member', rfl⟩ := List.mem_map.mp member
    exact ⟨.registered, held rfl rfl (opens.2 later member')⟩
  | goes _ _ ih =>
    rw [List.forall_mem_cons] at opens
    exact List.forall_mem_cons.mpr ⟨⟨.prepared, held rfl rfl opens.1⟩, ih opens.2⟩

end Registry

namespace Agent

variable {config : Config} {workers : List (Worker ω σ)}

theorem roster_foundation (config : Config) :
    (foundation config : Agent ω σ).network.Roster [(coreName, ⟨0⟩)] where
  lists := ⟨List.nodup_singleton _, fun _ => Iff.rfl, nofun⟩
  down e endpoint found := by
    right
    have bound := (List.getElem?_eq_some_iff.mp found).1
    obtain ⟨index⟩ := e
    obtain rfl : index = 0 := Nat.lt_one_iff.mp bound
    exact List.mem_cons_self

/-- The names of the endpoints of an agent: of the core, and of each worker whose `init` was
called. -/
def endpointNames (B : Behaviour ω σ) (config : Config) (workers : List (Worker ω σ)) :
    List String :=
  coreName :: (workers.take (setups B config workers).length).map Worker.name

theorem orderly_launch (makes : B.Makes BusRequest.Local)
    (opens : ∀ worker ∈ workers, worker.Makes BusRequest.Local)
    (distinct : (coreName :: workers.map Worker.name).Nodup) :
    ((workers.foldl register (create config)).launch B).Orderly
      (endpointNames B config workers) := by
  have walk := walk_prepared B config workers
  have roster := walk.roster makes opens (roster_foundation config) distinct
  have raised := raised_prepared B config workers
  have served : (foundation config : Agent ω σ).network.Serves ⟨0⟩ :=
    ⟨{ name := coreName }, rfl, rfl⟩
  have serves := (raised.spares ⟨0⟩).serves served
  have names : (prepared B config workers).2.2.endpoints.map Endpoint.name =
      endpointNames B config workers := walk.names
  have slots := walk.fresh opens
  have placed : ((workers.foldl register (create config)).launch B).Placed := placed_launch
  rw [launch_eq] at placed ⊢
  split at placed
  · next error failed =>
    exact ⟨placed, (fun gone => by cases gone), serves, names, roster, trivial, slots,
      (fun closing => by cases closing), (fun closing => by cases closing)⟩
  -- A start changes nobody's name and nobody's endpoint
  · have listed : Registry.listing ((prepared B config workers).2.1.map Slot.start) =
        Registry.listing (prepared B config workers).2.1 := by
      rw [Registry.listing, List.filterMap_map]
      exact congrArg (List.filterMap · _) (funext Slot.listed?_start)
    rw [← listed] at roster
    refine ⟨placed, (fun gone => by cases gone), serves, names, roster, trivial, ?_,
      (fun closing => by cases closing), (fun closing => by cases closing)⟩
    intro slot member
    obtain ⟨old, member', rfl⟩ := List.mem_map.mp member
    obtain ⟨sound, binds⟩ := slots old member'
    exact ⟨(Slot.advances_start sound).sound, binds.start⟩

/-- An agent is orderly until it closes, and it finishes in no other way. -/
theorem closed_session (makes : B.Makes BusRequest.Local)
    (opens : ∀ worker ∈ workers, worker.Makes BusRequest.Local)
    (distinct : (coreName :: workers.map Worker.name).Nodup) {moves : List (Move ω)}
    (tidy : ∀ move ∈ moves, move.Tidy) :
    (session B config workers moves).Orderly (endpointNames B config workers) ∨
      (session B config workers moves).Closed (endpointNames B config workers) := by
  refine moves_induction (P := fun agent => agent.Orderly _ ∨ agent.Closed _) ?_
    (.inl (orderly_launch makes opens distinct)) tidy
  rintro agent agent' move (orderly | closed) tidy step
  · exact orderly.step makes tidy step
  · exact .inr (closed.step tidy step)

end Agent

end AgentBus
