import AgentBus.Bus.Network

/-!
# Endpoints under the operations of the network

Every operation changes the record of one endpoint, if any: `endpoint?_update` says what becomes of
all the others, and the lemmas after it say it for each operation.

An endpoint that has its mailbox and is not tearing down `Accepts` messages: they are queued, and
anybody else's are dropped (`send_of_accepts`, `send_of_not_accepts`). So its queue grows by
whatever is sent to it (`queueAt_sendAll`).
-/

namespace AgentBus

/-- A send, before it is made or while it is still to be delivered. -/
structure Transfer where
  message : Message
  source : EndpointId
  destination : EndpointId
  deriving DecidableEq

def Transfer.routed (transfer : Transfer) : Message :=
  transfer.message.routed transfer.source transfer.destination

/-- The message that a send brings to an endpoint. -/
def Transfer.toward (e : EndpointId) (transfer : Transfer) : Option Message :=
  if transfer.destination = e then some transfer.routed else none

def Endpoint.enqueue (endpoint : Endpoint) (message : Message) : Endpoint :=
  { endpoint with queued := endpoint.queued + 1, queue := endpoint.queue.push message }

namespace Network

variable {ω : Type}

theorem endpoint?_update (net : Network ω) (id : EndpointId) (f : Endpoint → Endpoint)
    (e : EndpointId) :
    (net.update id f).endpoint? e =
      if id = e then (net.endpoint? e).map f else net.endpoint? e := by
  unfold update endpoint?
  rw [List.getElem?_modify]
  by_cases same : id = e
  · subst same
    simp
  · -- Ids are indices into the list of endpoints
    have other : id.index ≠ e.index := by
      intro index
      cases id
      cases e
      exact same (congrArg EndpointId.mk index)
    rw [if_neg same]
    cases net.endpoints[e.index]? with
    | none => rfl
    | some endpoint => simp [other]

theorem endpoint?_update_self {net : Network ω} {id : EndpointId} {endpoint : Endpoint}
    (found : net.endpoint? id = some endpoint) (f : Endpoint → Endpoint) :
    (net.update id f).endpoint? id = some (f endpoint) := by
  rw [endpoint?_update, if_pos rfl, found]
  rfl

theorem endpoint?_update_of_ne {id e : EndpointId} (other : id ≠ e) (net : Network ω)
    (f : Endpoint → Endpoint) : (net.update id f).endpoint? e = net.endpoint? e := by
  rw [endpoint?_update, if_neg other]

theorem isTearingDown_eq {net : Network ω} {id : EndpointId} {endpoint : Endpoint}
    (found : net.endpoint? id = some endpoint) :
    net.isTearingDown id = endpoint.tearingDown := by
  rw [isTearingDown, found]
  rfl

/-! ## Delivery -/

theorem deliver_served {net : Network ω} {destination : EndpointId} {endpoint : Endpoint}
    (found : net.endpoint? destination = some endpoint) (served : endpoint.served = true)
    (message : Message) (source : EndpointId) :
    net.deliver message source destination =
      (.queued, net.update destination (·.enqueue (message.routed source destination))) := by
  rw [deliver, found, if_pos (by simpa using served)]
  rfl

theorem deliver_unserved {net : Network ω} {destination : EndpointId} {endpoint : Endpoint}
    (found : net.endpoint? destination = some endpoint) (unserved : endpoint.served = false)
    (message : Message) (source : EndpointId) :
    net.deliver message source destination = (.dropped, net.recordDropped destination) := by
  rw [deliver, found, if_neg (by simpa using unserved)]

/-- A delivery leaves all endpoints but its destination alone. -/
theorem endpoint?_deliver_of_ne {destination e : EndpointId} (other : destination ≠ e)
    (net : Network ω) (message : Message) (source : EndpointId) :
    (net.deliver message source destination).2.endpoint? e = net.endpoint? e := by
  unfold deliver
  split
  · exact endpoint?_update_of_ne other net _
  · exact endpoint?_update_of_ne other net _

/-! ## Taking -/

theorem take_eq_some {net after : Network ω} {id : EndpointId} {message : Message}
    (taken : net.take id = some (message, after)) :
    ∃ endpoint rest, net.endpoint? id = some endpoint ∧
      endpoint.queue.toList = message :: rest.toList ∧
      after = net.update id fun endpoint => { endpoint with queue := rest } := by
  unfold take at taken
  split at taken
  · contradiction
  · next endpoint found =>
    split at taken
    · contradiction
    · next oldest rest popped =>
      obtain ⟨rfl, rfl⟩ : oldest = message ∧ _ = after := by simpa using taken
      exact ⟨endpoint, rest, found, Queue.toList_of_pop?_eq_some popped, rfl⟩

/-! ## Endpoints that accept messages -/

/-- What the queue of an endpoint holds, oldest first. -/
def queueAt (net : Network ω) (e : EndpointId) : List Message :=
  ((net.endpoint? e).map fun endpoint => endpoint.queue.toList).getD []

/-- An endpoint with a mailbox that is not tearing down. -/
def Accepts (net : Network ω) (e : EndpointId) : Prop :=
  ∃ endpoint, net.endpoint? e = some endpoint ∧ endpoint.served = true ∧
    endpoint.tearingDown = false

theorem queueAt_eq {net : Network ω} {e : EndpointId} {endpoint : Endpoint}
    (found : net.endpoint? e = some endpoint) : net.queueAt e = endpoint.queue.toList := by
  rw [queueAt, found]
  rfl

theorem Accepts.isAlive {net : Network ω} {e : EndpointId} (accepts : net.Accepts e) :
    net.isAlive e = true := by
  obtain ⟨endpoint, found, served, _⟩ := accepts
  simp [Network.isAlive, found, served]

theorem Accepts.isSome_living {net : Network ω} {e : EndpointId} (accepts : net.Accepts e) :
    (net.living? e).isSome = true := by
  rw [living?, if_pos accepts.isAlive]
  obtain ⟨endpoint, found, _⟩ := accepts
  rw [found]
  rfl

theorem Accepts.not_isTearingDown {net : Network ω} {e : EndpointId} (accepts : net.Accepts e) :
    net.isTearingDown e = false := by
  obtain ⟨endpoint, found, _, up⟩ := accepts
  rw [isTearingDown_eq found, up]

/-- An update that keeps the mailbox and the flag keeps an endpoint accepting. -/
theorem Accepts.update {net : Network ω} {e : EndpointId} (accepts : net.Accepts e)
    (id : EndpointId) {f : Endpoint → Endpoint}
    (served : ∀ endpoint, (f endpoint).served = endpoint.served)
    (flag : ∀ endpoint, (f endpoint).tearingDown = endpoint.tearingDown) :
    (net.update id f).Accepts e := by
  obtain ⟨endpoint, found, isServed, up⟩ := accepts
  by_cases here : id = e
  · subst here
    exact ⟨f endpoint, endpoint?_update_self found f, by rw [served, isServed], by rw [flag, up]⟩
  · exact ⟨endpoint, (endpoint?_update_of_ne here net f).trans found, isServed, up⟩

/-- An update that keeps the queue keeps all queues. -/
theorem queueAt_update {id : EndpointId} {f : Endpoint → Endpoint}
    (queue : ∀ endpoint, (f endpoint).queue = endpoint.queue) (net : Network ω) (e : EndpointId) :
    (net.update id f).queueAt e = net.queueAt e := by
  unfold queueAt
  rw [endpoint?_update]
  split
  · cases net.endpoint? e with
    | none => rfl
    | some endpoint => simp [queue]
  · rfl

theorem queueAt_recordDispatched (net : Network ω) (id e : EndpointId) :
    (net.recordDispatched id).queueAt e = net.queueAt e := by
  apply queueAt_update
  intro endpoint
  rfl

theorem Accepts.recordDispatched {net : Network ω} {e : EndpointId} (accepts : net.Accepts e)
    (id : EndpointId) : (net.recordDispatched id).Accepts e :=
  accepts.update id (fun _ => rfl) fun _ => rfl

/-- The message that is taken was the oldest one, and nothing else changes. -/
theorem queueAt_take {net after : Network ω} {id : EndpointId} {message : Message}
    (taken : net.take id = some (message, after)) :
    net.queueAt id = message :: after.queueAt id ∧
      (∀ e, e ≠ id → after.queueAt e = net.queueAt e) ∧ after.context = net.context := by
  obtain ⟨endpoint, rest, found, queue, rfl⟩ := take_eq_some taken
  refine ⟨?_, ?_, rfl⟩
  · rw [queueAt_eq found, queueAt_eq (endpoint?_update_self found _), queue]
  · intro e other
    rw [queueAt, endpoint?_update_of_ne (Ne.symm other), ← queueAt]

theorem output_take {net after : Network ω} {id : EndpointId} {message : Message}
    (taken : net.take id = some (message, after)) : after.output = net.output := by
  obtain ⟨_, _, _, _, rfl⟩ := take_eq_some taken
  rfl

theorem Accepts.take {net after : Network ω} {e id : EndpointId} {message : Message}
    (accepts : net.Accepts e) (taken : net.take id = some (message, after)) : after.Accepts e := by
  obtain ⟨_, _, _, _, rfl⟩ := take_eq_some taken
  exact accepts.update id (fun _ => rfl) fun _ => rfl

/-! ### Sends -/

/-- A message is queued if its destination accepts it. -/
theorem send_of_accepts {net : Network ω} {destination : EndpointId}
    (accepts : net.Accepts destination) (message : Message) (source : EndpointId) :
    net.send message source destination =
      (.queued, net.update destination (·.enqueue (message.routed source destination))) := by
  obtain ⟨endpoint, found, served, up⟩ := accepts
  rw [Network.send, isTearingDown_eq found, up, if_neg Bool.false_ne_true,
    deliver_served found served]

/-- And it is dropped if not, for whatever reason. -/
theorem send_of_not_accepts {net : Network ω} {destination : EndpointId}
    (refused : ¬ net.Accepts destination) (message : Message) (source : EndpointId) :
    net.send message source destination = (.dropped, net.recordDropped destination) := by
  unfold Network.send deliver
  split
  · rfl
  · next up =>
    refine if_neg fun served => refused ?_
    obtain ⟨endpoint, found, isServed⟩ := (Option.any_eq_true _ _).mp served
    rw [isTearingDown_eq found] at up
    exact ⟨endpoint, found, isServed, Bool.eq_false_iff.mpr up⟩

theorem endpoint?_send_of_ne {destination e : EndpointId} (other : destination ≠ e)
    (net : Network ω) (message : Message) (source : EndpointId) :
    (net.send message source destination).2.endpoint? e = net.endpoint? e := by
  by_cases takes : net.Accepts destination
  · rw [send_of_accepts takes]
    exact endpoint?_update_of_ne other net _
  · rw [send_of_not_accepts takes]
    exact endpoint?_update_of_ne other net _

theorem Accepts.send {net : Network ω} {e : EndpointId} (accepts : net.Accepts e)
    (message : Message) (source destination : EndpointId) :
    (net.send message source destination).2.Accepts e := by
  by_cases takes : net.Accepts destination
  · rw [send_of_accepts takes]
    exact accepts.update destination (fun _ => rfl) fun _ => rfl
  · rw [send_of_not_accepts takes]
    exact accepts.update destination (fun _ => rfl) fun _ => rfl

theorem queueAt_send {net : Network ω} {e : EndpointId} (accepts : net.Accepts e)
    (transfer : Transfer) :
    (net.send transfer.message transfer.source transfer.destination).2.queueAt e =
      net.queueAt e ++ (transfer.toward e).toList := by
  unfold Transfer.toward
  by_cases here : transfer.destination = e
  · subst here
    rw [if_pos rfl, send_of_accepts accepts]
    obtain ⟨endpoint, found, _⟩ := accepts
    rw [queueAt_eq (endpoint?_update_self found _), queueAt_eq found]
    exact Queue.toList_push _ _
  · -- A send elsewhere does not touch the endpoint, whether it is dropped or delivered
    rw [if_neg here, queueAt, endpoint?_send_of_ne here]
    exact (List.append_nil _).symm

theorem context_send (net : Network ω) (message : Message) (source destination : EndpointId) :
    (net.send message source destination).2.context = net.context := by
  by_cases takes : net.Accepts destination
  · rw [send_of_accepts takes]
    rfl
  · rw [send_of_not_accepts takes]
    rfl

theorem output_send (net : Network ω) (message : Message) (source destination : EndpointId) :
    (net.send message source destination).2.output = net.output := by
  by_cases takes : net.Accepts destination
  · rw [send_of_accepts takes]
    rfl
  · rw [send_of_not_accepts takes]
    rfl

/-- Makes a list of sends, one after the other. -/
def sendAll (net : Network ω) (transfers : List Transfer) : Network ω :=
  transfers.foldl
    (fun net transfer => (net.send transfer.message transfer.source transfer.destination).2) net

theorem Accepts.sendAll {net : Network ω} {e : EndpointId} (accepts : net.Accepts e)
    (transfers : List Transfer) : (net.sendAll transfers).Accepts e := by
  induction transfers generalizing net with
  | nil => exact accepts
  | cons transfer transfers ih => exact ih (accepts.send _ _ _)

/-- The queue of an endpoint that accepts messages grows by what is sent to it, in order. -/
theorem queueAt_sendAll {net : Network ω} {e : EndpointId} (accepts : net.Accepts e)
    (transfers : List Transfer) :
    (net.sendAll transfers).queueAt e =
      net.queueAt e ++ transfers.filterMap (Transfer.toward e) := by
  induction transfers generalizing net with
  | nil => exact (List.append_nil _).symm
  | cons transfer transfers ih =>
    have grown := ih (accepts.send transfer.message transfer.source transfer.destination)
    rw [queueAt_send accepts, List.append_assoc] at grown
    rw [Network.sendAll, List.foldl_cons, ← Network.sendAll, grown]
    cases brought : transfer.toward e with
    | none => simp [brought]
    | some message => simp [brought]

theorem context_sendAll (net : Network ω) (transfers : List Transfer) :
    (net.sendAll transfers).context = net.context := by
  induction transfers generalizing net with
  | nil => rfl
  | cons transfer transfers ih => exact (ih _).trans (context_send net _ _ _)

end Network

end AgentBus
