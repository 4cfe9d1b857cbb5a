import AgentBus.Proofs.Worker.Closing

/-!
# The endpoint of a worker

A worker is on an endpoint of its own from `prepare` to `deinit` (`Slot.Housed`). To the directory
it does nothing but bind channels to that endpoint, as long as its programs do nothing else. So each
step at a slot is one of four (`Slot.Affects`): the worker does nothing to the network, works on its
endpoint, enrolls on a new one or leaves its endpoint.
-/

namespace AgentBus

variable {ω σ : Type} {B : Behaviour ω σ} {core : EndpointId}

/-! ## Directories -/

namespace Directory

variable {directory : Directory} {name other : String}

theorem endpoint?_withdraw_of_ne (ne : other ≠ name) :
    (directory.withdraw name).endpoint? other = directory.endpoint? other := by
  unfold Directory.withdraw
  split
  · rfl
  · exact NameTable.find?_erase_of_ne ne

theorem mem_endpoints_withdraw {entry : String × EndpointId}
    (member : entry ∈ (directory.withdraw name).endpoints) : entry ∈ directory.endpoints := by
  unfold Directory.withdraw at member
  split at member
  · exact member
  · exact (List.mem_filter.mp member).1

theorem mem_channels_withdraw {channel : String × EndpointId}
    (member : channel ∈ (directory.withdraw name).channels) : channel ∈ directory.channels := by
  unfold Directory.withdraw at member
  split at member
  · exact member
  · exact (List.mem_filter.mp member).1

/-- No entry of a name is left when the name is withdrawn. -/
theorem fst_ne_of_mem_withdraw {entry : String × EndpointId}
    (member : entry ∈ (directory.withdraw name).endpoints) : entry.1 ≠ name := by
  rintro rfl
  unfold Directory.withdraw at member
  split at member
  · next missing =>
    rw [Directory.endpoint?, NameTable.find?, Option.map_eq_none_iff, List.find?_eq_none] at missing
    exact missing entry member (by simp)
  · exact of_decide_eq_true (List.mem_filter.mp member).2 rfl

/-- A name that leads to an endpoint takes the channels of the endpoint along. -/
theorem snd_ne_of_mem_withdraw {endpoint : EndpointId}
    (found : directory.endpoint? name = some endpoint) {channel : String × EndpointId}
    (member : channel ∈ (directory.withdraw name).channels) : channel.2 ≠ endpoint := by
  rw [Directory.withdraw, found] at member
  exact of_decide_eq_true (List.mem_filter.mp member).2

end Directory

/-! ## What a worker does to the directory -/

namespace Network

variable {net net' net'' : Network ω} {own : EndpointId}

/-- Nothing happens to the directory but that channels are bound to one endpoint. -/
structure Binding (net : Network ω) (own : EndpointId) (net' : Network ω) : Prop where
  endpoints : net'.context.directory.endpoints = net.context.directory.endpoints
  channels : ∀ channel ∈ net'.context.directory.channels,
    channel ∈ net.context.directory.channels ∨ channel.2 = own

theorem Binding.of_same (same : net'.context.directory = net.context.directory) :
    Binding net own net' := by
  constructor
  · rw [same]
  · rw [same]
    exact fun channel => .inl

theorem Binding.trans (first : Binding net own net') (second : Binding net' own net'') :
    Binding net own net'' := by
  refine ⟨second.endpoints.trans first.endpoints, fun channel member => ?_⟩
  rcases second.channels channel member with old | new
  · exact first.channels channel old
  · exact .inr new

theorem binding_perform {request : BusRequest ω} (fine : request.Local own) (net : Network ω) :
    Binding net own (perform request net).2 := by
  cases request with
  | send message source destination =>
    exact .of_same (congrArg Context.directory (context_send net message source destination))
  | look | tearDown | context | emit => exact .of_same rfl
  | change made =>
    cases made with
    | takeEventId | requestShutdown => exact .of_same rfl
    | publish | withdraw => exact fine.elim
    | bind channel endpoint =>
      obtain rfl := List.mem_singleton.mp fine
      refine ⟨rfl, fun bound member => ?_⟩
      rcases NameTable.mem_insert member with rfl | old
      · exact .inr rfl
      · exact .inl old

theorem Touch.binding (touch : Touch (BusRequest.Local own) own net net') :
    Binding net own net' := by
  induction touch with
  | nothing => exact .of_same rfl
  | request _ fine ih => exact ih.trans (binding_perform fine _)
  | update _ _ _ ih => exact ih.trans (.of_same rfl)
  | handles _ ih => exact ih.trans (.of_same rfl)

/-- An endpoint that was created. -/
def Knows (net : Network ω) (e : EndpointId) : Prop :=
  e.index < net.endpoints.length

/-- Endpoints may come, but none goes, and none that is tearing down ceases to. -/
structure Grows (net net' : Network ω) : Prop where
  knows : ∀ {e : EndpointId}, net.Knows e → net'.Knows e
  down : ∀ {e : EndpointId}, net.isTearingDown e = true → net'.isTearingDown e = true

theorem Lasts.grows (lasts : Lasts net net') : Grows net net' := by
  have length := congrArg List.length lasts.names
  rw [List.length_map, List.length_map] at length
  refine ⟨fun known => ?_, lasts.down⟩
  rw [Knows, length]
  exact known

theorem Grows.refl (net : Network ω) : Grows net net :=
  ⟨id, id⟩

theorem Grows.trans (first : Grows net net') (second : Grows net' net'') : Grows net net'' :=
  ⟨fun known => second.knows (first.knows known), fun down => second.down (first.down down)⟩

theorem knows_enroll_nextId (name : String) (core : EndpointId) :
    (net.enroll name core).Knows net.nextId :=
  (List.getElem?_eq_some_iff.mp (endpoint?_enroll_nextId name core)).1

theorem grows_enroll (name : String) (core : EndpointId) : Grows net (net.enroll name core) := by
  refine ⟨fun {e} known => ?_, (Spares.enroll name core).isTearingDown⟩
  have longer : (net.enroll name core).endpoints.length = net.endpoints.length + 1 :=
    List.length_append
  rw [Knows] at known ⊢
  omega

theorem not_knows_nextId : ¬ net.Knows net.nextId :=
  Nat.lt_irrefl _

theorem isTearingDown_tearDown_of_knows (known : net.Knows own) :
    (net.tearDown own).isTearingDown own = true := by
  have found : net.endpoint? own = some net.endpoints[own.index] := List.getElem?_eq_getElem known
  exact isTearingDown_eq (endpoint?_update_self found _)

end Network

/-! ## Slots -/

/-- Workers bind channels to their own endpoints at most, and nobody else changes the directory. -/
def Outside.binding : Outside ω σ where
  registers _ worker := worker.Makes BusRequest.Local
  assigns job := ∀ own, job.Every (BusRequest.Local own) fun _ => True
  changes net net' := net'.context.directory = net.context.directory ∧ net.Grows net'

namespace Slot

/-- What belongs to a worker is on the worker's endpoint, and binds channels to no other. -/
structure Housed (slot : Slot ω σ) : Prop where
  sound : slot.Sound
  binds : slot.Binds
  context : ∀ {context : WorkerContext σ}, slot.context = some context →
    slot.endpoint = some context.own
  thread : ∀ {thread : Thread ω σ}, slot.thread = some thread → slot.endpoint = some thread.own

variable {slot slot' : Slot ω σ} {net net' : Network ω}

theorem Housed.registered {name : String} {worker : Worker ω σ}
    (makes : worker.Makes BusRequest.Local) :
    Housed { name, state := .registered, worker := some worker } := by
  refine ⟨.registered, ⟨?_, fun _ has => nomatch has⟩, fun has => (nomatch has),
    fun has => nomatch has⟩
  rintro _ ⟨⟩
  exact makes

theorem Housed.prepared {name : String} {worker : Worker ω σ} {context : WorkerContext σ}
    (makes : worker.Makes BusRequest.Local) :
    Housed { name, state := .prepared, worker := some worker, context := some context,
             endpoint := some context.own } := by
  refine ⟨.prepared, ⟨?_, fun _ has => nomatch has⟩, ?_, fun has => nomatch has⟩
  · rintro _ ⟨⟩
    exact makes
  · rintro _ ⟨⟩
    rfl

theorem Housed.deinitialized {name : String} {worker : Option (Worker ω σ)}
    {exitValue : Option Int32}
    (makes : ∀ gone, worker = some gone → gone.Makes BusRequest.Local) :
    Housed { name, state := .deinitialized, worker, exitValue } :=
  ⟨.deinitialized, ⟨makes, fun _ has => nomatch has⟩, fun has => (nomatch has),
    fun has => nomatch has⟩

theorem Housed.start (housed : slot.Housed) : slot.start.Housed := by
  have sound := (advances_start housed.sound).sound
  have binds := housed.binds.start
  obtain same | ⟨worker, context, -, -, has, same⟩ := slot.start_cases
  · rw [same]
    exact housed
  · rw [same] at sound binds ⊢
    refine ⟨sound, binds, nofun, ?_⟩
    rintro _ ⟨⟩
    exact housed.context has

theorem Housed.join (housed : slot.Housed) : slot.join.Housed := by
  have sound := (advances_join housed.sound).sound
  have binds := housed.binds.join
  obtain ⟨same, -⟩ | ⟨thread, code, has, -, same⟩ | ⟨thread, -, -, same⟩ := slot.join_cases
  · rw [same]
    exact housed
  · -- The context comes back from the thread, with the same endpoint
    rw [same] at sound binds ⊢
    refine ⟨sound, binds, ?_, nofun⟩
    rintro _ ⟨⟩
    exact housed.thread has
  · rw [same] at sound binds ⊢
    exact ⟨sound, binds, housed.context, nofun⟩

theorem Housed.withThread (housed : slot.Housed) {thread after : Thread ω σ}
    (found : slot.thread = some thread) (own : after.own = thread.own)
    (worker : after.worker = thread.worker)
    (phase : after.phase.Makes (BusRequest.Local thread.own)) :
    Housed { slot with thread := some after } := by
  refine ⟨(Advances.of_thread housed.sound found after).sound, ⟨housed.binds.worker, ?_⟩,
    housed.context, ?_⟩
  · rintro _ ⟨⟩
    rw [own, worker]
    exact ⟨(housed.binds.thread thread found).1, phase⟩
  · rintro _ ⟨⟩
    rw [own]
    exact housed.thread found

/-- What a step at a slot means to the worker's endpoint and to the directory. -/
inductive Affects (core : EndpointId) (slot : Slot ω σ) (net : Network ω) (slot' : Slot ω σ) :
    Network ω → Prop where
  | idles : slot'.endpoint = slot.endpoint → Affects core slot net slot' net
  | works {own : EndpointId} {net' : Network ω} : slot.endpoint = some own →
      slot'.endpoint = some own → net.Grows net' → net.Binding own net' →
      Affects core slot net slot' net'
  | enrolls {net' : Network ω} : slot.endpoint = none → slot'.endpoint = some net.nextId →
      (net.enroll slot.name core).Grows net' → (net.enroll slot.name core).Binding net.nextId net' →
      Affects core slot net slot' net'
  | leaves {own : EndpointId} {between net' : Network ω} : slot.endpoint = some own →
      slot'.endpoint = none → net.Grows net' → net.Binding own between →
      net'.context.directory = between.context.directory.withdraw slot.name →
      net'.isTearingDown own = true → Affects core slot net slot' net'

theorem Housed.prepare (makes : B.Makes BusRequest.Local) (housed : slot.Housed) :
    slot.Affects core net (slot.prepare B core net).2.1 (slot.prepare B core net).2.2 ∧
      (slot.prepare B core net).2.1.Housed ∧ (slot.prepare B core net).2.1.name = slot.name := by
  have binds := housed.binds
  have sound := housed.sound
  cases sound with
  | @registered name worker =>
    have opens := binds.worker worker rfl
    have touch := WorkerContext.touch_bringUp makes opens
      { mailbox := { endpoint := net.nextId }, core, drain := net.context.config.bus }
      (net.enroll name core)
    exact ⟨.enrolls rfl rfl touch.lasts.grows touch.binding, .prepared opens, rfl⟩
  | prepared => exact ⟨.idles rfl, housed, rfl⟩
  | running => exact ⟨.idles rfl, housed, rfl⟩
  | stopped => exact ⟨.idles rfl, housed, rfl⟩
  | lost => exact ⟨.idles rfl, housed, rfl⟩
  | deinitialized => exact ⟨.idles rfl, housed, rfl⟩

theorem Housed.works {thread after : Thread ω σ} (housed : slot.Housed)
    (found : slot.thread = some thread)
    (kept : Thread.Keeps BusRequest.Local thread after net net') :
    slot.Affects core net { slot with thread := some after } net' ∧
      Housed { slot with thread := some after } :=
  ⟨.works (housed.thread found) (housed.thread found) kept.touch.lasts.grows kept.touch.binding,
    housed.withThread found kept.own kept.worker kept.phase⟩

theorem withdraw_of_endpoint {own : EndpointId} (has : slot.endpoint = some own)
    (known : net.Knows own) :
    (slot.withdraw net).2.context.directory = net.context.directory.withdraw slot.name ∧
      (slot.withdraw net).2.isTearingDown own = true := by
  rw [withdraw, has]
  exact ⟨rfl, Network.isTearingDown_tearDown_of_knows known⟩

theorem context_dropContext (slot : Slot ω σ) (net : Network ω) :
    (slot.dropContext net).2.context = net.context := by
  unfold dropContext
  split
  · rfl
  · rfl

/-- Who is deinitialized leaves the endpoint, and is withdrawn under the own name. -/
theorem Housed.leaves (makes : B.Makes BusRequest.Local) (housed : slot.Housed) {own : EndpointId}
    (due : slot.state = .prepared ∨ slot.state = .stopped) (has : slot.endpoint = some own)
    (known : net.Knows own) :
    slot.Affects core net (slot.deinit B net).1 (slot.deinit B net).2 := by
  -- What the worker binds in `deinit` is bound before the name is withdrawn
  have down := housed.binds.touch_takeDownWorker makes (fun _ => housed.context) has net
  obtain ⟨same, name⟩ := endpoint_takeDownWorker B slot net
  obtain ⟨directory, torn⟩ := withdraw_of_endpoint (same.trans has) (down.lasts.grows.knows known)
  rw [name] at directory
  rw [deinit, if_pos due]
  refine .leaves has ?_ ?_ down.binding ?_ ?_
  · exact (dropContext_fields _ _).1.trans (withdraw_endpoint _ _)
  · exact ((down.lasts.trans (lasts_withdraw _ _)).trans (lasts_dropContext _ _)).grows
  · exact (congrArg Context.directory (context_dropContext _ _)).trans directory
  · exact (lasts_dropContext _ _).down torn

theorem Housed.deinit (makes : B.Makes BusRequest.Local) (housed : slot.Housed)
    (known : ∀ own, slot.endpoint = some own → net.Knows own) :
    slot.Affects core net (slot.deinit B net).1 (slot.deinit B net).2 ∧
      (slot.deinit B net).1.Housed ∧ (slot.deinit B net).1.name = slot.name := by
  have binds := housed.binds
  have sound := housed.sound
  cases sound with
  | prepared =>
    exact ⟨housed.leaves makes (.inl rfl) rfl (known _ rfl), .deinitialized binds.worker, rfl⟩
  | stopped =>
    exact ⟨housed.leaves makes (.inr rfl) rfl (known _ rfl), .deinitialized binds.worker, rfl⟩
  | lost =>
    exact ⟨housed.leaves makes (.inr rfl) rfl (known _ rfl), .deinitialized binds.worker, rfl⟩
  | registered => exact ⟨.idles rfl, housed, rfl⟩
  | running => exact ⟨.idles rfl, housed, rfl⟩
  | deinitialized => exact ⟨.idles rfl, housed, rfl⟩

theorem Step.affects (makes : B.Makes BusRequest.Local)
    (step : slot.Step B core .binding net slot' net') (housed : slot.Housed)
    (known : ∀ own, slot.endpoint = some own → net.Knows own) :
    slot.Affects core net slot' net' ∧ slot'.Housed ∧ slot'.name = slot.name := by
  cases step with
  | prepare => exact housed.prepare makes
  | start => exact ⟨.idles (endpoint_start slot), housed.start, name_start slot⟩
  | join => exact ⟨.idles (endpoint_join slot), housed.join, name_join slot⟩
  | deinit => exact housed.deinit makes known
  | work found stepped =>
    have phase := (housed.binds.thread _ found).2
    obtain ⟨affects, housed'⟩ :=
      housed.works found (Thread.keeps_step makes (BusRequest.common_local _) phase stepped)
    exact ⟨affects, housed', rfl⟩
  | task found stepped =>
    have phase := (housed.binds.thread _ found).2
    obtain ⟨affects, housed'⟩ := housed.works found (Thread.keeps_taskStep phase stepped)
    exact ⟨affects, housed', rfl⟩
  | @assign thread job fine found =>
    have phase := (housed.binds.thread _ found).2
    have context := Thread.context_addJob job thread
    refine ⟨.idles rfl, housed.withThread found (congrArg WorkerContext.own context)
      (Thread.worker_addJob job thread) ?_, rfl⟩
    exact Thread.makes_addJob (fun post => fine post _) phase
  | @crash thread found going =>
    have touch : Network.Touch (BusRequest.Local thread.own) thread.own net
        (thread.context.close net) := .handles .close
    have kept : Thread.Keeps BusRequest.Local thread (thread.moveTo .panicked) net
        (thread.context.close net) :=
      ⟨rfl, rfl, rfl, touch, fun going => absurd rfl going, trivial⟩
    obtain ⟨affects, housed'⟩ := housed.works found kept
    exact ⟨affects, housed', rfl⟩

end Slot

end AgentBus
