import AgentBus.Proofs.Bus.Touch

/-!
# Programs amid other threads

A thread performs its program one request at a time, and other threads act in between. What they may
do to the network is a relation (`Interference`): it may be anything as long as they do not take a
flag back and do not give an endpoint a new mailbox (`Ages`), and it may be nothing at all.
`BusRequest.Gets` is what becomes of one request, where a send may be taken apart into its test and
its delivery, and `Performs` is what becomes of a program, with the requests it came to in order.

A program that is bound to another one is performed after it (`Performs.of_bind`), and a run at one
go performs a program while nobody acts (`performs_run`).
-/

namespace AgentBus

variable {ω α β : Type}

/-! ## The others -/

namespace Network

variable {net between after : Network ω} {e : EndpointId}
variable {others : Network ω → Network ω → Prop}

/-- What can be said of the network after other threads were at work: flags stay set, and mailboxes
that are gone stay gone. -/
def Ages (net after : Network ω) : Prop :=
  ∀ e endpoint, net.endpoint? e = some endpoint → ∃ endpoint', after.endpoint? e = some endpoint' ∧
    (endpoint.tearingDown = true → endpoint'.tearingDown = true) ∧
    (endpoint.served = false → endpoint'.served = false)

/-- Messages for the endpoint are dropped: it is tearing down, or its mailbox is gone. -/
def Refuses (net : Network ω) (e : EndpointId) : Prop :=
  ∃ endpoint, net.endpoint? e = some endpoint ∧
    (endpoint.tearingDown = true ∨ endpoint.served = false)

theorem Ages.refl (net : Network ω) : net.Ages net :=
  fun _ endpoint found => ⟨endpoint, found, id, id⟩

theorem Ages.trans (first : net.Ages between) (second : between.Ages after) : net.Ages after := by
  intro e endpoint found
  obtain ⟨endpoint', found', down, gone⟩ := first e endpoint found
  obtain ⟨endpoint'', found'', down', gone'⟩ := second e endpoint' found'
  exact ⟨endpoint'', found'', fun set => down' (down set), fun lost => gone' (gone lost)⟩

/-- What others may do to the network. -/
structure Interference (others : Network ω → Network ω → Prop) : Prop where
  refl : ∀ net, others net net
  trans : ∀ {net between after}, others net between → others between after → others net after
  ages : ∀ {net after}, others net after → net.Ages after

/-- They do nothing. -/
theorem interference_eq : Interference (@Eq (Network ω)) :=
  ⟨fun _ => rfl, Eq.trans, fun same => same ▸ .refl _⟩

theorem Ages.refuses (ages : net.Ages after) (refuses : net.Refuses e) : after.Refuses e := by
  obtain ⟨endpoint, found, closed⟩ := refuses
  obtain ⟨endpoint', found', down, gone⟩ := ages e endpoint found
  exact ⟨endpoint', found', closed.imp down gone⟩

theorem Ages.exists_endpoint (ages : net.Ages after) (known : ∃ endpoint,
    net.endpoint? e = some endpoint) : ∃ endpoint, after.endpoint? e = some endpoint := by
  obtain ⟨endpoint, found⟩ := known
  obtain ⟨endpoint', found', _⟩ := ages e endpoint found
  exact ⟨endpoint', found'⟩

theorem Serves.not_refuses (serves : net.Serves e) (up : net.isTearingDown e = false) :
    ¬ net.Refuses e := by
  obtain ⟨endpoint, found, served⟩ := serves
  rintro ⟨endpoint', found', closed⟩
  obtain rfl := Option.some.inj (found.symm.trans found')
  rw [isTearingDown_eq found] at up
  rcases closed with down | gone
  · exact nomatch up.symm.trans down
  · exact nomatch served.symm.trans gone

/-- A message arrives at an endpoint while others act: it is appended to the queue, or the endpoint
refuses it and the drop is counted there. An endpoint that has refused messages before does so. -/
inductive Lands (others : Network ω → Network ω → Prop) (net : Network ω) (message : Message)
    (e : EndpointId) : Network ω → Prop where
  | appended {between : Network ω} : ¬ net.Refuses e → others net between → between.Serves e →
      Lands others net message e (between.update e (·.enqueue message))
  | dropped {between : Network ω} : others net between → between.Refuses e →
      Lands others net message e (between.recordDropped e)

namespace Interference

variable (interference : Interference others)
include interference

theorem lands {message : Message} (acts : others net between)
    (lands : between.Lands others message e after) : net.Lands others message e after := by
  cases lands with
  | appended accepts later serves =>
    have before : ¬ net.Refuses e := fun refuses =>
      accepts ((interference.ages acts).refuses refuses)
    exact .appended before (interference.trans acts later) serves
  | dropped later refuses => exact .dropped (interference.trans acts later) refuses

/-- What a delivery does after the flag was seen not to be set. -/
theorem lands_deliver {destination : EndpointId} (acts : others net between)
    (up : net.isTearingDown destination = false)
    (known : ∃ endpoint, net.endpoint? destination = some endpoint) (message : Message)
    (source : EndpointId) :
    net.Lands others (message.routed source destination) destination
      (between.deliver message source destination).2 := by
  obtain ⟨endpoint, found⟩ := known
  obtain ⟨endpoint', found', _, gone⟩ := interference.ages acts _ endpoint found
  cases served : endpoint'.served with
  | false =>
    rw [deliver_unserved found' served]
    exact .dropped acts ⟨endpoint', found', .inr served⟩
  | true =>
    rw [deliver_served found' served]
    have before : endpoint.served = true := by
      cases lost : endpoint.served with
      | true => rfl
      | false => exact (gone lost).symm.trans served
    exact .appended (Serves.not_refuses ⟨endpoint, found, before⟩ up) acts
      ⟨endpoint', found', served⟩

theorem lands_send {destination : EndpointId}
    (known : ∃ endpoint, net.endpoint? destination = some endpoint) (message : Message)
    (source : EndpointId) :
    net.Lands others (message.routed source destination) destination
      (net.send message source destination).2 := by
  cases down : net.isTearingDown destination with
  | false =>
    rw [send, down, if_neg Bool.false_ne_true]
    exact interference.lands_deliver (interference.refl net) down known message source
  | true =>
    obtain ⟨endpoint, found⟩ := known
    rw [send, down, if_pos rfl]
    rw [isTearingDown_eq found] at down
    exact .dropped (interference.refl net) ⟨endpoint, found, .inl down⟩

end Interference

end Network

/-! ## Requests -/

section Performing

variable {others : Network ω → Network ω → Prop}

open Network in
/-- A response to a request of a thread amid others, and the network with it. -/
inductive BusRequest.Gets (others : Network ω → Network ω → Prop) (net : Network ω) :
    (request : BusRequest ω) → request.Response → Network ω → Prop where
  | once {request : BusRequest ω} {between : Network ω} : others net between →
      Gets others net request (perform request between).1 (perform request between).2
  /-- Others are at work between the test of a send and its delivery. -/
  | apart {message : Message} {source destination : EndpointId} {tested between : Network ω} :
      others net tested → tested.isTearingDown destination = false → others tested between →
      Gets others net (.send message source destination)
        (between.deliver message source destination).1
        (between.deliver message source destination).2

namespace BusRequest

variable {net after : Network ω}

/-- A look sees the network as it is at that moment, and changes nothing. -/
theorem Gets.look {e : EndpointId} {info : Option EndpointInfo}
    (gets : (BusRequest.look e).Gets others net info after) :
    others net after ∧ info = (after.living? e).map Endpoint.info := by
  cases gets with
  | once acts => exact ⟨acts, rfl⟩

/-- The same for a look at the shared context. -/
theorem Gets.context {context : Context}
    (gets : (BusRequest.context : BusRequest ω).Gets others net context after) :
    others net after ∧ context = after.context := by
  cases gets with
  | once acts => exact ⟨acts, rfl⟩

theorem Gets.lands (interference : Network.Interference others) {message : Message}
    {source destination : EndpointId} {delivery : Delivery}
    (gets : (BusRequest.send message source destination).Gets others net delivery after)
    (known : ∃ endpoint, net.endpoint? destination = some endpoint) :
    net.Lands others (message.routed source destination) destination after := by
  cases gets with
  | once acts =>
    have still := (interference.ages acts).exists_endpoint known
    exact interference.lands acts (interference.lands_send still message source)
  | apart before up acts =>
    have still := (interference.ages before).exists_endpoint known
    exact interference.lands before (interference.lands_deliver acts up still message source)

end BusRequest

/-! ## Programs -/

/-- A program is performed amid others: the requests that it comes to, its result, and the network
then. -/
inductive Performs (others : Network ω → Network ω → Prop) :
    BusProgram ω α → Network ω → List (BusRequest ω) → α → Network ω → Prop where
  | done {result : α} {net : Network ω} : Performs others (.done result) net [] result net
  | ask {request : BusRequest ω} {next : request.Response → BusProgram ω α}
      {response : request.Response} {log : List (BusRequest ω)} {result : α}
      {net between after : Network ω} : request.Gets others net response between →
      Performs others (next response) between log result after →
      Performs others (.ask request next) net (request :: log) result after

namespace Performs

variable {net after : Network ω} {log : List (BusRequest ω)}

/-- Two programs one after the other: the second begins where the first has ended. -/
theorem of_bind {program : BusProgram ω α} {f : α → BusProgram ω β} {result : β}
    (performs : Performs others (program.bind f) net log result after) :
    ∃ first rest middle between, log = first ++ rest ∧
      Performs others program net first middle between ∧
      Performs others (f middle) between rest result after := by
  induction program generalizing net log with
  | done middle => exact ⟨[], log, middle, net, rfl, .done, performs⟩
  | ask request next ih =>
    cases performs with
    | ask gets performs =>
      obtain ⟨first, rest, middle, between, rfl, before, later⟩ := ih _ performs
      exact ⟨request :: first, rest, middle, between, rfl, .ask gets before, later⟩

theorem of_done {result result' : α}
    (performs : Performs others (.done result) net log result' after) :
    log = [] ∧ result' = result ∧ after = net := by
  cases performs with
  | done => exact ⟨rfl, rfl, rfl⟩

/-- A program of one request. -/
theorem of_ask {request : BusRequest ω} {response : request.Response}
    (performs : Performs others (.ask request .done) net log response after) :
    log = [request] ∧ request.Gets others net response after := by
  cases performs with
  | ask gets performs =>
    obtain ⟨rfl, rfl, rfl⟩ := performs.of_done
    exact ⟨rfl, gets⟩

end Performs

end Performing

/-- A run at one go performs a program while nobody else acts. -/
theorem performs_run (program : BusProgram ω α) (net : Network ω) :
    ∃ log, Performs Eq program net log (program.run Network.perform net).1
      (program.run Network.perform net).2 := by
  induction program generalizing net with
  | done result => exact ⟨[], .done⟩
  | ask request next ih =>
    obtain ⟨log, performs⟩ := ih (Network.perform request net).1 (Network.perform request net).2
    exact ⟨request :: log, .ask (.once rfl) performs⟩

end AgentBus
