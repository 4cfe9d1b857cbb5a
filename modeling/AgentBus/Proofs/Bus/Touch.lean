import AgentBus.Proofs.Bus.Network
import AgentBus.Proofs.Program.Notes

/-!
# What threads do to the network

A thread changes the network by the requests that it makes and by what it does to its own endpoint,
whose mailbox it has: that is `Network.Touch`. For the owner of any other endpoint this means that
the mailbox stays, the flag is not taken back, and messages only come behind those in the queue
(`Network.Spares`). A new endpoint is added behind all others (`Network.enroll`).
-/

namespace AgentBus

variable {ω : Type}

/-! ## Endpoints of others -/

/-- The endpoint keeps its mailbox and its messages. More may come, and it may be torn down. -/
structure Endpoint.Spared (old new : Endpoint) : Prop where
  name : new.name = old.name
  served : new.served = old.served
  tearingDown : old.tearingDown = true → new.tearingDown = true
  queue : ∃ more, new.queue.toList = old.queue.toList ++ more

theorem Endpoint.Spared.of_same {old new : Endpoint} (name : new.name = old.name)
    (served : new.served = old.served) (tearingDown : new.tearingDown = old.tearingDown)
    (queue : new.queue = old.queue) : old.Spared new :=
  ⟨name, served, fun down => tearingDown.trans down, [], by rw [queue, List.append_nil]⟩

theorem Endpoint.Spared.trans {first second third : Endpoint} (spared : first.Spared second)
    (more : second.Spared third) : first.Spared third := by
  obtain ⟨new, queue⟩ := spared.queue
  obtain ⟨new', queue'⟩ := more.queue
  refine ⟨more.name.trans spared.name, more.served.trans spared.served,
    fun down => more.tearingDown (spared.tearingDown down), new ++ new', ?_⟩
  rw [queue', queue, List.append_assoc]

theorem Endpoint.spared_enqueue (endpoint : Endpoint) (message : Message) :
    endpoint.Spared (endpoint.enqueue message) :=
  ⟨rfl, rfl, id, [message], Queue.toList_push _ _⟩

namespace Network

variable {net net' net'' : Network ω} {own e : EndpointId}

/-- The endpoint is spared by whatever happens. -/
def Spares (e : EndpointId) (net net' : Network ω) : Prop :=
  ∀ endpoint, net.endpoint? e = some endpoint →
    ∃ endpoint', net'.endpoint? e = some endpoint' ∧ endpoint.Spared endpoint'

namespace Spares

theorem of_same (same : net'.endpoint? e = net.endpoint? e) : Spares e net net' :=
  fun endpoint found => ⟨endpoint, same.trans found, .of_same rfl rfl rfl rfl⟩

theorem trans (first : Spares e net net') (second : Spares e net' net'') : Spares e net net'' := by
  intro endpoint found
  obtain ⟨endpoint', found', spared⟩ := first endpoint found
  obtain ⟨endpoint'', found'', more⟩ := second endpoint' found'
  exact ⟨endpoint'', found'', spared.trans more⟩

theorem update (id : EndpointId) {f : Endpoint → Endpoint}
    (spared : ∀ endpoint : Endpoint, endpoint.Spared (f endpoint)) :
    Spares e net (net.update id f) := by
  intro endpoint found
  by_cases here : id = e
  · subst here
    exact ⟨f endpoint, endpoint?_update_self found f, spared endpoint⟩
  · exact ⟨endpoint, (endpoint?_update_of_ne here net f).trans found, .of_same rfl rfl rfl rfl⟩

theorem update_of_ne (other : own ≠ e) (f : Endpoint → Endpoint) :
    Spares e net (net.update own f) :=
  of_same (endpoint?_update_of_ne other net f)

theorem tearDown (id : EndpointId) : Spares e net (net.tearDown id) :=
  update id fun _ => ⟨rfl, rfl, fun _ => rfl, [], (List.append_nil _).symm⟩

theorem recordDropped (id : EndpointId) : Spares e net (net.recordDropped id) :=
  update id fun _ => .of_same rfl rfl rfl rfl

theorem send (message : Message) (source destination : EndpointId) :
    Spares e net (net.send message source destination).2 := by
  by_cases takes : net.Accepts destination
  · rw [send_of_accepts takes]
    exact update destination fun endpoint => endpoint.spared_enqueue _
  · rw [send_of_not_accepts takes]
    exact recordDropped destination

/-- Whoever makes a request spares all endpoints. -/
theorem perform (request : BusRequest ω) : Spares e net (Network.perform request net).2 := by
  cases request with
  | send message source destination => exact send message source destination
  | tearDown id => exact tearDown id
  | look id => exact of_same rfl
  | context => exact of_same rfl
  | change made => exact of_same rfl
  | emit output => exact of_same rfl

theorem run {α : Type} (program : BusProgram ω α) :
    Spares e net (program.run Network.perform net).2 := by
  refine program.run_preserves (fun request between spared => spared.trans (perform request)) net ?_
  exact of_same rfl

theorem isTearingDown (spares : Spares e net net') (down : net.isTearingDown e = true) :
    net'.isTearingDown e = true := by
  cases found : net.endpoint? e with
  | none => simp [Network.isTearingDown, found] at down
  | some endpoint =>
    obtain ⟨endpoint', found', spared⟩ := spares endpoint found
    rw [isTearingDown_eq found] at down
    rw [isTearingDown_eq found']
    exact spared.tearingDown down

theorem queueAt (spares : Spares e net net') {endpoint : Endpoint}
    (found : net.endpoint? e = some endpoint) :
    ∃ more, net'.queueAt e = net.queueAt e ++ more := by
  obtain ⟨endpoint', found', spared⟩ := spares endpoint found
  obtain ⟨more, queue⟩ := spared.queue
  exact ⟨more, by rw [queueAt_eq found', queueAt_eq found, queue]⟩

end Spares

/-- The endpoint has its mailbox. -/
def Serves (net : Network ω) (e : EndpointId) : Prop :=
  ∃ endpoint, net.endpoint? e = some endpoint ∧ endpoint.served = true

theorem Spares.serves (spares : Spares e net net') (serves : net.Serves e) : net'.Serves e := by
  obtain ⟨endpoint, found, served⟩ := serves
  obtain ⟨endpoint', found', spared⟩ := spares endpoint found
  exact ⟨endpoint', found', spared.served.trans served⟩

theorem Serves.update (serves : net.Serves e) {f : Endpoint → Endpoint}
    (served : ∀ endpoint, (f endpoint).served = endpoint.served) (id : EndpointId) :
    (net.update id f).Serves e := by
  obtain ⟨endpoint, found, isServed⟩ := serves
  by_cases here : id = e
  · subst here
    exact ⟨f endpoint, endpoint?_update_self found f, (served endpoint).trans isServed⟩
  · exact ⟨endpoint, (endpoint?_update_of_ne here net f).trans found, isServed⟩

theorem isTearingDown_tearDown (serves : net.Serves e) :
    (net.tearDown e).isTearingDown e = true := by
  obtain ⟨endpoint, found, _⟩ := serves
  exact isTearingDown_eq (endpoint?_update_self found _)

theorem Serves.recordDropped (serves : net.Serves e) (id : EndpointId) :
    (net.recordDropped id).Serves e := by
  apply serves.update
  exact fun _ => rfl

theorem Serves.recordDispatched (serves : net.Serves e) (id : EndpointId) :
    (net.recordDispatched id).Serves e := by
  apply serves.update
  exact fun _ => rfl

theorem Serves.perform (serves : net.Serves e) (request : BusRequest ω) :
    (Network.perform request net).2.Serves e :=
  (Spares.perform request).serves serves

theorem Serves.take (serves : net.Serves e) {message : Message}
    (taken : net.take own = some (message, net')) : net'.Serves e := by
  obtain ⟨_, _, _, _, rfl⟩ := take_eq_some taken
  apply serves.update
  exact fun _ => rfl

theorem names_update (id : EndpointId) {f : Endpoint → Endpoint}
    (name : ∀ endpoint, (f endpoint).name = endpoint.name) :
    (net.update id f).endpoints.map Endpoint.name = net.endpoints.map Endpoint.name := by
  apply List.ext_getElem?
  intro index
  rw [update, List.getElem?_map, List.getElem?_map, List.getElem?_modify]
  cases net.endpoints[index]? with
  | none => rfl
  | some endpoint =>
    by_cases here : id.index = index
    · simp [here, name]
    · simp [here]

theorem names_perform (request : BusRequest ω) :
    (perform request net).2.endpoints.map Endpoint.name = net.endpoints.map Endpoint.name := by
  cases request with
  | send message source destination =>
    simp only [perform, send, deliver]
    split
    · exact names_update destination fun _ => rfl
    · split
      · exact names_update destination fun _ => rfl
      · exact names_update destination fun _ => rfl
  | tearDown id => exact names_update id fun _ => rfl
  | look id => rfl
  | context => rfl
  | change made => rfl
  | emit output => rfl

/-! ## The steps of a thread -/

/-- What a thread with a mailbox does to the network: it makes requests, works on its own endpoint,
and gives handles up. -/
inductive Touch (allowed : BusRequest ω → Prop) (own : EndpointId) (net : Network ω) :
    Network ω → Prop where
  | nothing : Touch allowed own net net
  | request {net' : Network ω} {request : BusRequest ω} : Touch allowed own net net' →
      allowed request → Touch allowed own net (perform request net').2
  | update {net' : Network ω} {f : Endpoint → Endpoint} : Touch allowed own net net' →
      (∀ endpoint, (f endpoint).name = endpoint.name) →
      (∀ endpoint, endpoint.tearingDown = true → (f endpoint).tearingDown = true) →
      Touch allowed own net (net'.update own f)
  | handles {net' : Network ω} {handles : List EndpointId} : Touch allowed own net net' →
      Touch allowed own net { net' with handles }

namespace Touch

variable {allowed : BusRequest ω → Prop}

theorem trans (first : Touch allowed own net net') (second : Touch allowed own net' net'') :
    Touch allowed own net net'' := by
  induction second with
  | nothing => exact first
  | request _ fine ih => exact ih.request fine
  | update _ name flag ih => exact ih.update name flag
  | handles _ ih => exact ih.handles

theorem mono {allowed' : BusRequest ω → Prop} (touch : Touch allowed own net net')
    (weaker : ∀ request, allowed request → allowed' request) : Touch allowed' own net net' := by
  induction touch with
  | nothing => exact .nothing
  | request _ fine ih => exact ih.request (weaker _ fine)
  | update _ name flag ih => exact ih.update name flag
  | handles _ ih => exact ih.handles

theorem run {α : Type} {fine : α → Prop} {program : BusProgram ω α}
    (every : program.Every allowed fine) : Touch allowed own net (program.run perform net).2 :=
  every.run (fun _ _ fine touched => touched.request fine) .nothing

theorem tearDown : Touch allowed own net (net.tearDown own) :=
  nothing.update (fun _ => rfl) fun _ _ => rfl

theorem recordDropped : Touch allowed own net (net.recordDropped own) :=
  nothing.update (fun _ => rfl) fun _ => id

theorem recordDispatched : Touch allowed own net (net.recordDispatched own) :=
  nothing.update (fun _ => rfl) fun _ => id

theorem close : Touch allowed own net (net.close own) :=
  nothing.update (fun _ => rfl) fun _ => id

theorem take {message : Message} (taken : net.take own = some (message, net')) :
    Touch allowed own net net' := by
  obtain ⟨_, _, _, _, rfl⟩ := take_eq_some taken
  exact nothing.update (fun _ => rfl) fun _ => id

theorem spares (touch : Touch allowed own net net') (other : own ≠ e) : Spares e net net' := by
  induction touch with
  | nothing => exact .of_same rfl
  | request _ _ ih => exact ih.trans (.perform _)
  | update _ _ _ ih => exact ih.trans (.update_of_ne other _)
  | handles _ ih => exact ih.trans (.of_same rfl)

/-- No flag is taken back. -/
theorem isTearingDown (touch : Touch allowed own net net') (down : net.isTearingDown e = true) :
    net'.isTearingDown e = true := by
  induction touch with
  | nothing => exact down
  | request _ _ ih => exact (Spares.perform _).isTearingDown ih
  | @update net' f _ _ flag ih =>
    by_cases here : own = e
    · subst here
      cases found : net'.endpoint? own with
      | none => simp [Network.isTearingDown, found] at ih
      | some endpoint =>
        rw [isTearingDown_eq found] at ih
        rw [isTearingDown_eq (endpoint?_update_self found f)]
        exact flag endpoint ih
    · exact (Spares.update_of_ne here f).isTearingDown ih
  | handles _ ih => exact ih

/-- Nothing is written to the outside but by request. -/
theorem output (touch : Touch allowed own net net')
    (silent : ∀ request, allowed request → ∀ output, request ≠ .emit output) :
    net'.output = net.output := by
  induction touch with
  | nothing => rfl
  | @request net' request _ fine ih =>
    refine Eq.trans ?_ ih
    cases request with
    | send message source destination => exact output_send net' message source destination
    | tearDown id => rfl
    | look id => rfl
    | context => rfl
    | change made => rfl
    | emit output => exact absurd rfl (silent _ fine output)
  | update _ _ _ ih => exact ih
  | handles _ ih => exact ih

/-- No endpoint comes or goes. -/
theorem names (touch : Touch allowed own net net') :
    net'.endpoints.map Endpoint.name = net.endpoints.map Endpoint.name := by
  induction touch with
  | nothing => rfl
  | request _ _ ih => exact (names_perform _).trans ih
  | update _ name _ ih => exact (names_update _ name).trans ih
  | handles _ ih => exact ih

end Touch

/-! ## New endpoints -/

/-- The id of the endpoint that is created next. -/
def nextId (net : Network ω) : EndpointId :=
  ⟨net.endpoints.length⟩

/-- The network with a new endpoint under its name, which keeps the core's endpoint alive. -/
def enroll (net : Network ω) (name : String) (core : EndpointId) : Network ω :=
  let created := (net.create name).2.hold core
  { created with context := created.context.apply (.publish name net.nextId) }.hold net.nextId

theorem endpoint?_enroll_nextId (name : String) (core : EndpointId) :
    (net.enroll name core).endpoint? net.nextId = some { name } :=
  List.getElem?_concat_length

theorem serves_enroll (name : String) (core : EndpointId) :
    (net.enroll name core).Serves net.nextId :=
  ⟨{ name }, endpoint?_enroll_nextId name core, rfl⟩

theorem Spares.enroll (name : String) (core : EndpointId) :
    Spares e net (net.enroll name core) := by
  intro endpoint found
  have bound := (List.getElem?_eq_some_iff.mp found).1
  refine ⟨endpoint, ?_, .of_same rfl rfl rfl rfl⟩
  exact (List.getElem?_append_left bound).trans found

theorem names_enroll (name : String) (core : EndpointId) :
    (net.enroll name core).endpoints.map Endpoint.name =
      net.endpoints.map Endpoint.name ++ [name] :=
  List.map_append

theorem names_run {α : Type} (program : BusProgram ω α) :
    (program.run perform net).2.endpoints.map Endpoint.name =
      net.endpoints.map Endpoint.name := by
  refine program.run_preserves (P := fun after =>
    after.endpoints.map Endpoint.name = net.endpoints.map Endpoint.name) ?_ net rfl
  exact fun request between same => (names_perform request).trans same

end Network

end AgentBus
