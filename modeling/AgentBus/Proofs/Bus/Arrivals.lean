import AgentBus.Proofs.Bus.Network

/-!
# Messages that arrive

A send at one go changes the record of its destination and nothing else (`Network.send_eq`): the
message is queued there, or dropped and counted. After a list of sends each endpoint has received
those to it, in order (`Network.endpoint?_sendAll`).
-/

namespace AgentBus

variable {ω : Type}

/-! ## Records -/

/-- What becomes of the record of an endpoint that a message is sent to. -/
def Endpoint.receive (endpoint : Endpoint) (message : Message) : Endpoint :=
  if endpoint.tearingDown = false ∧ endpoint.served = true then endpoint.enqueue message
  else { endpoint with dropped := endpoint.dropped + 1 }

namespace Endpoint

variable {endpoint : Endpoint}

/-- An endpoint that takes messages has them all in its queue. -/
theorem receive_replicate_up (up : endpoint.tearingDown = false) (served : endpoint.served = true)
    (message : Message) (count : Nat) :
    ∃ queue, queue.toList = endpoint.queue.toList ++ List.replicate count message ∧
      (List.replicate count message).foldl receive endpoint =
        { endpoint with queued := endpoint.queued + count, queue } := by
  induction count generalizing endpoint with
  | zero => exact ⟨endpoint.queue, (List.append_nil _).symm, rfl⟩
  | succ count ih =>
    have received : endpoint.receive message = endpoint.enqueue message := if_pos ⟨up, served⟩
    obtain ⟨queue, holds, same⟩ := @ih (endpoint.enqueue message) up served
    refine ⟨queue, ?_, ?_⟩
    · rw [holds, List.replicate_succ, List.append_cons]
      exact congrArg (· ++ _) (Queue.toList_push _ _)
    · rw [List.replicate_succ, List.foldl_cons, received, same, enqueue, Nat.add_right_comm]
      rfl

/-- One that is tearing down, or has lost its mailbox, counts a drop for each. -/
theorem receive_replicate_down (down : ¬ (endpoint.tearingDown = false ∧ endpoint.served = true))
    (message : Message) (count : Nat) :
    (List.replicate count message).foldl receive endpoint =
      { endpoint with dropped := endpoint.dropped + count } := by
  induction count generalizing endpoint with
  | zero => rfl
  | succ count ih =>
    have received : endpoint.receive message =
        { endpoint with dropped := endpoint.dropped + 1 } := if_neg down
    rw [List.replicate_succ, List.foldl_cons, received,
      @ih { endpoint with dropped := endpoint.dropped + 1 } down, Nat.add_right_comm]
    rfl

end Endpoint

/-! ## Sends -/

namespace Network

variable {net after : Network ω} {destination source : EndpointId} {message : Message}

theorem send_of_queued (sent : net.send message source destination = (.queued, after)) :
    net.Accepts destination ∧
      after = net.update destination (·.enqueue (message.routed source destination)) := by
  by_cases accepts : net.Accepts destination
  · rw [send_of_accepts accepts] at sent
    exact ⟨accepts, (Prod.mk.inj sent).2.symm⟩
  · rw [send_of_not_accepts accepts] at sent
    exact nomatch sent

theorem send_of_dropped (sent : net.send message source destination = (.dropped, after)) :
    ¬ net.Accepts destination ∧ after = net.recordDropped destination := by
  by_cases accepts : net.Accepts destination
  · rw [send_of_accepts accepts] at sent
    exact nomatch sent
  · rw [send_of_not_accepts accepts] at sent
    exact ⟨accepts, (Prod.mk.inj sent).2.symm⟩

/-- Only what an update does to the record of its endpoint counts. -/
theorem update_congr {id : EndpointId} {f g : Endpoint → Endpoint}
    (same : ∀ endpoint, net.endpoint? id = some endpoint → f endpoint = g endpoint) :
    net.update id f = net.update id g := by
  have endpoints : net.endpoints.modify id.index f = net.endpoints.modify id.index g := by
    refine List.ext_getElem? fun index => ?_
    rw [List.getElem?_modify, List.getElem?_modify]
    by_cases here : id.index = index
    · subst here
      cases found : net.endpoints[id.index]? with
      | none => rfl
      | some endpoint => simp [same endpoint found]
    · simp [here]
  rw [update, endpoints, ← update]

/-- A send is received by its destination, and that is all. -/
theorem send_eq (net : Network ω) (message : Message) (source destination : EndpointId) :
    (net.send message source destination).2 =
      net.update destination (·.receive (message.routed source destination)) := by
  cases sent : net.send message source destination with
  | mk delivery after =>
    cases delivery with
    | queued =>
      obtain ⟨⟨endpoint, found, served, up⟩, rfl⟩ := send_of_queued sent
      refine update_congr fun endpoint' found' => ?_
      obtain rfl := Option.some.inj (found.symm.trans found')
      exact (if_pos ⟨up, served⟩).symm
    | dropped =>
      obtain ⟨refuses, rfl⟩ := send_of_dropped sent
      refine update_congr fun endpoint found => ?_
      exact (if_neg fun takes => refuses ⟨endpoint, found, takes.2, takes.1⟩).symm

/-- After a list of sends, an endpoint has received those to it, in order. -/
theorem endpoint?_sendAll (net : Network ω) (transfers : List Transfer) (e : EndpointId) :
    (net.sendAll transfers).endpoint? e =
      (net.endpoint? e).map ((transfers.filterMap (Transfer.toward e)).foldl Endpoint.receive) := by
  induction transfers generalizing net with
  | nil => exact Option.map_id'.symm
  | cons transfer transfers ih =>
    rw [sendAll, List.foldl_cons, ← sendAll, ih, send_eq, endpoint?_update]
    by_cases here : transfer.destination = e
    · have toward : transfer.toward e = some transfer.routed := if_pos here
      rw [if_pos here, Option.map_map, List.filterMap_cons_some toward]
      subst here
      rfl
    · have elsewhere : transfer.toward e = none := if_neg here
      rw [if_neg here, List.filterMap_cons_none elsewhere]

end Network

end AgentBus
