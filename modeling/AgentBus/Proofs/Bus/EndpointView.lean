import AgentBus.Proofs.Bus.Interleaving

/-!
# One endpoint of a world

Seen from one endpoint, a world is a queue with its flags, the stage of the owner's work, and the
sends under way to it. `viewStep_of_step` says that every step of the world is one of the few steps
of this view, or leaves it alone. What holds of an endpoint in all runs is then proved by these few.
-/

namespace AgentBus

variable {ω σ : Type} {B : Behaviour ω σ}

/-! ## The view of an endpoint -/

def Owner.stage (owner : Owner ω σ) : Stage :=
  match owner.loop with
  | none => .idle
  | some loop => loop.work.stage

theorem Owner.stage_of_loop {owner : Owner ω σ} {loop : Loop ω σ} (loops : owner.loop = some loop) :
    owner.stage = loop.work.stage := by
  rw [Owner.stage, loops]

theorem Owner.stage_of_rest {owner : Owner ω σ} (rests : owner.loop = none) :
    owner.stage = .idle := by
  rw [Owner.stage, rests]

/-- What occurred at an endpoint. -/
def heard (e : EndpointId) (trace : List Occurrence) : List Occurrence :=
  trace.filter fun occurrence => occurrence.endpoint = e

/-- A world as it is seen from one endpoint. -/
structure View where
  queued : Nat
  dispatched : Nat
  dropped : Nat
  queue : List Message
  served : Bool
  tearingDown : Bool
  stage : Stage
  /-- The messages of threads that are still to be delivered. -/
  inflight : ThreadId → Option Message

namespace World

def inflight (world : World ω σ) (e : EndpointId) (thread : ThreadId) : Option Message :=
  (world.transfers thread).bind (Transfer.toward e)

def view (world : World ω σ) (e : EndpointId) (endpoint : Endpoint) : View :=
  { queued := endpoint.queued, dispatched := endpoint.dispatched, dropped := endpoint.dropped
    queue := endpoint.queue.toList, served := endpoint.served
    tearingDown := endpoint.tearingDown, stage := (world.owners e).stage
    inflight := world.inflight e }

end World

/-- The steps of a view, with what occurs at its endpoint. -/
inductive ViewStep (e : EndpointId) : View → List Occurrence → View → Prop where
  | quiet {view : View} : ViewStep e view [] view
  | refused {view : View} {thread : ThreadId} {message : Message} : view.tearingDown = true →
      view.inflight thread = none →
      ViewStep e view [.sent thread e message] { view with dropped := view.dropped + 1 }
  | tested {view : View} {thread : ThreadId} {message : Message} : view.tearingDown = false →
      view.inflight thread = none →
      ViewStep e view [.sent thread e message]
        { view with inflight := Function.update view.inflight thread (some message) }
  | appended {view : View} {thread : ThreadId} {message : Message} : view.served = true →
      view.inflight thread = some message →
      ViewStep e view [.appended thread e message]
        { view with
          queued := view.queued + 1
          queue := view.queue ++ [message]
          inflight := Function.update view.inflight thread none }
  | lost {view : View} {thread : ThreadId} {message : Message} : view.served = false →
      view.inflight thread = some message →
      ViewStep e view []
        { view with
          dropped := view.dropped + 1
          inflight := Function.update view.inflight thread none }
  | took {view : View} {message : Message} {rest : List Message} : view.stage = .idle →
      view.queue = message :: rest →
      ViewStep e view [.took e message] { view with queue := rest, stage := .taken message }
  | released {view : View} {message : Message} : view.stage = .taken message →
      view.tearingDown = true →
      ViewStep e view [.released e message]
        { view with dropped := view.dropped + 1, stage := .idle }
  | began {view : View} {message : Message} : view.stage = .taken message →
      view.tearingDown = false →
      ViewStep e view [.began e message] { view with stage := .offering message }
  | handled {view : View} {message : Message} : view.stage = .offering message →
      ViewStep e view [.handled e message]
        { view with dispatched := view.dispatched + 1, stage := .idle }
  | tornDown {view : View} : ViewStep e view [.tornDown e] { view with tearingDown := true }
  | closed {view : View} : view.stage = .idle →
      ViewStep e view [] { view with queue := [], served := false }

/-! ## Every step is a step of the view -/

theorem heard_one_self {e : EndpointId} {occurrence : Occurrence}
    (here : occurrence.endpoint = e) : heard e [occurrence] = [occurrence] := by
  simp [heard, here]

theorem heard_one_of_ne {e : EndpointId} {occurrence : Occurrence}
    (elsewhere : occurrence.endpoint ≠ e) : heard e [occurrence] = [] := by
  simp [heard, elsewhere]

theorem heard_append (e : EndpointId) (first second : List Occurrence) :
    heard e (first ++ second) = heard e first ++ heard e second :=
  List.filter_append _ _

namespace World

@[simp] theorem network_resume (world : World ω σ) (delivery : Delivery) (thread : ThreadId) :
    (world.resume delivery thread).network = world.network := by
  cases thread with
  | owner own => rfl
  | other number => rfl

@[simp] theorem inflight_resume (world : World ω σ) (delivery : Delivery) (thread : ThreadId)
    (e : EndpointId) : (world.resume delivery thread).inflight e = world.inflight e := by
  cases thread with
  | owner own => rfl
  | other number => rfl

theorem owners_withOwner_self (world : World ω σ) (own : EndpointId) (owner : Owner ω σ) :
    (world.withOwner own owner).owners own = owner :=
  Function.update_self _ _ _

theorem owners_withOwner_of_ne {own e : EndpointId} (other : own ≠ e) (world : World ω σ)
    (owner : Owner ω σ) : (world.withOwner own owner).owners e = world.owners e :=
  Function.update_of_ne (Ne.symm other) _ _

theorem stage_withOwner {world : World ω σ} {own : EndpointId} {owner : Owner ω σ}
    (same : owner.stage = (world.owners own).stage) (e : EndpointId) :
    ((world.withOwner own owner).owners e).stage = (world.owners e).stage := by
  by_cases here : own = e
  · rw [← here, owners_withOwner_self, same]
  · rw [owners_withOwner_of_ne here]

/-- A thread that learns what became of its send is where it was. -/
theorem stage_resume (world : World ω σ) (delivery : Delivery) (thread : ThreadId)
    (e : EndpointId) :
    ((world.resume delivery thread).owners e).stage = (world.owners e).stage := by
  cases thread with
  | other number => rfl
  | owner own =>
    apply stage_withOwner
    cases loops : (world.owners own).loop with
    | none => simp [Owner.stage, loops]
    | some loop => simp [Owner.stage, loops, Loop.stage_resume]

theorem inflight_withTransfer (world : World ω σ) (thread : ThreadId)
    (transfer : Option Transfer) (e : EndpointId) :
    (world.withTransfer thread transfer).inflight e =
      Function.update (world.inflight e) thread (transfer.bind (Transfer.toward e)) := by
  funext other
  by_cases same : other = thread
  · subst same
    simp [inflight, withTransfer]
  · simp [inflight, withTransfer, same]

/-- A step of the world is a step of the view from an endpoint. -/
def Seen (e : EndpointId) (endpoint : Endpoint) (world : World ω σ) (occurrences : List Occurrence)
    (next : World ω σ) : Prop :=
  ∃ endpoint', next.network.endpoint? e = some endpoint' ∧
    ViewStep e (world.view e endpoint) (heard e occurrences) (next.view e endpoint')

section Steps

variable {world next : World ω σ} {network : Network ω} {e : EndpointId}
variable {endpoint endpoint' : Endpoint}

/-- What occurs at an endpoint is a step of its view. -/
theorem seen_one {occurrence : Occurrence} (after : next.network = network)
    (found : network.endpoint? e = some endpoint') (here : occurrence.endpoint = e)
    (step : ViewStep e (world.view e endpoint) [occurrence] (next.view e endpoint')) :
    Seen e endpoint world [occurrence] next := by
  refine ⟨endpoint', after.symm ▸ found, ?_⟩
  rw [heard_one_self here]
  exact step

theorem seen_silent {occurrences : List Occurrence} (after : next.network = network)
    (found : network.endpoint? e = some endpoint') (silent : heard e occurrences = [])
    (step : ViewStep e (world.view e endpoint) [] (next.view e endpoint')) :
    Seen e endpoint world occurrences next := by
  refine ⟨endpoint', after.symm ▸ found, ?_⟩
  rw [silent]
  exact step

/-- Nothing happens to an endpoint whose view stays as it is. -/
theorem seen_of_same {occurrences : List Occurrence} (after : next.network = network)
    (found : network.endpoint? e = some endpoint') (silent : heard e occurrences = [])
    (same : next.view e endpoint' = world.view e endpoint) :
    Seen e endpoint world occurrences next := by
  refine seen_silent after found silent ?_
  rw [same]
  exact .quiet

theorem Rests.stage {world : World ω σ} {own : EndpointId} (rests : world.Rests (.owner own)) :
    (world.owners own).stage = .idle :=
  Owner.stage_of_rest (rests.2 own rfl)

theorem Sends.no_transfer {world : World ω σ} {thread : ThreadId} {transfer : Transfer}
    (sends : world.Sends thread transfer) : world.transfers thread = none := by
  obtain rests | handling := sends
  · exact rests.1
  · exact handling.1

theorem inflight_of_no_transfer {world : World ω σ} {thread : ThreadId}
    (free : world.transfers thread = none) (e : EndpointId) :
    world.inflight e thread = none := by
  rw [inflight, free]
  rfl

/-! ### Sends -/

theorem view_resume (world : World ω σ) (delivery : Delivery) (thread : ThreadId) (e : EndpointId)
    (endpoint : Endpoint) :
    (world.resume delivery thread).view e endpoint = world.view e endpoint := by
  simp only [view, stage_resume, inflight_resume]

theorem view_withTransfer (world : World ω σ) (thread : ThreadId) (transfer : Option Transfer)
    (e : EndpointId) (endpoint : Endpoint) :
    (world.withTransfer thread transfer).view e endpoint =
      { world.view e endpoint with
        inflight :=
          Function.update (world.inflight e) thread (transfer.bind (Transfer.toward e)) } := by
  simp only [view, inflight_withTransfer]
  rfl

theorem seen_refuse {thread : ThreadId} {transfer : Transfer} (sends : world.Sends thread transfer)
    (down : world.network.isTearingDown transfer.destination = true)
    (found : world.network.endpoint? e = some endpoint) :
    Seen e endpoint world [.sent thread transfer.destination transfer.routed]
      ((world.withNetwork (world.network.recordDropped transfer.destination)).resume .dropped
        thread) := by
  by_cases here : transfer.destination = e
  · subst here
    rw [Network.isTearingDown_eq found] at down
    refine seen_one (network_resume _ _ _) (Network.endpoint?_update_self found _) rfl ?_
    rw [view_resume]
    exact .refused down (inflight_of_no_transfer sends.no_transfer _)
  · have elsewhere := Network.endpoint?_update_of_ne here world.network fun endpoint =>
      { endpoint with dropped := endpoint.dropped + 1 }
    refine seen_of_same (network_resume _ _ _) (elsewhere.trans found) (heard_one_of_ne here) ?_
    rw [view_resume]
    rfl

theorem seen_test {thread : ThreadId} {transfer : Transfer} (sends : world.Sends thread transfer)
    (up : world.network.isTearingDown transfer.destination = false)
    (found : world.network.endpoint? e = some endpoint) :
    Seen e endpoint world [.sent thread transfer.destination transfer.routed]
      (world.withTransfer thread (some transfer)) := by
  have free := inflight_of_no_transfer sends.no_transfer e
  by_cases here : transfer.destination = e
  · subst here
    rw [Network.isTearingDown_eq found] at up
    refine seen_one rfl found rfl ?_
    rw [view_withTransfer, Option.bind_some, Transfer.toward, if_pos rfl]
    exact .tested up free
  · -- A transfer to another endpoint is as invisible as none
    refine seen_of_same rfl found (heard_one_of_ne here) ?_
    rw [view_withTransfer, Option.bind_some, Transfer.toward, if_neg here, ← free,
      Function.update_eq_self]
    rfl

theorem view_enqueue (world : World ω σ) (e : EndpointId) (endpoint : Endpoint)
    (message : Message) :
    world.view e (endpoint.enqueue message) =
      { world.view e endpoint with
        queued := (world.view e endpoint).queued + 1
        queue := (world.view e endpoint).queue ++ [message] } := by
  simp only [view, Endpoint.enqueue, Queue.toList_push]

theorem seen_deliver {thread : ThreadId} {transfer : Transfer} {delivery : Delivery}
    (underWay : world.transfers thread = some transfer)
    (delivered : world.network.deliver transfer.message transfer.source transfer.destination =
      (delivery, network))
    (found : world.network.endpoint? e = some endpoint) :
    Seen e endpoint world (delivery.occurrences thread transfer)
      (((world.withTransfer thread none).withNetwork network).resume delivery thread) := by
  have toward : world.inflight e thread = transfer.toward e := by
    rw [inflight, underWay, Option.bind_some]
  have view : ∀ endpoint',
      (((world.withTransfer thread none).withNetwork network).resume delivery thread).view e
          endpoint' =
        { world.view e endpoint' with
          inflight := Function.update (world.inflight e) thread none } := by
    intro endpoint'
    rw [view_resume]
    exact view_withTransfer world thread none e endpoint'
  by_cases here : transfer.destination = e
  · subst here
    rw [Transfer.toward, if_pos rfl] at toward
    -- The flag is not tested again: only a lost mailbox keeps the message out of the queue
    cases served : endpoint.served with
    | true =>
      rw [Network.deliver_served found served] at delivered
      obtain ⟨rfl, rfl⟩ := Prod.mk.inj delivered
      refine seen_one (network_resume _ _ _) (Network.endpoint?_update_self found _) rfl ?_
      rw [view, view_enqueue]
      exact .appended served toward
    | false =>
      rw [Network.deliver_unserved found served] at delivered
      obtain ⟨rfl, rfl⟩ := Prod.mk.inj delivered
      refine seen_silent (network_resume _ _ _) (Network.endpoint?_update_self found _) rfl ?_
      rw [view]
      exact .lost served toward
  · rw [Transfer.toward, if_neg here] at toward
    have elsewhere := Network.endpoint?_deliver_of_ne here world.network transfer.message
      transfer.source
    rw [delivered] at elsewhere
    refine seen_of_same (network_resume _ _ _) (elsewhere.trans found) ?_ ?_
    · cases delivery with
      | queued => exact heard_one_of_ne here
      | dropped => rfl
    · rw [view, ← toward, Function.update_eq_self]
      rfl

/-! ### Requests -/

/-- A request that is no send leaves an endpoint alone, or sets its flag. -/
theorem perform_cases {request : BusRequest ω}
    (noSend : ∀ message source destination, request ≠ .send message source destination)
    (found : network.endpoint? e = some endpoint) :
    heard e request.occurrences = [] ∧
        (Network.perform request network).2.endpoint? e = some endpoint ∨
      request.occurrences = [.tornDown e] ∧
        (Network.perform request network).2.endpoint? e =
          some { endpoint with tearingDown := true } := by
  cases request with
  | send message source destination => exact absurd rfl (noSend message source destination)
  | tearDown id =>
    by_cases here : id = e
    · subst here
      exact .inr ⟨rfl, Network.endpoint?_update_self found _⟩
    · exact .inl ⟨heard_one_of_ne here, (Network.endpoint?_update_of_ne here _ _).trans found⟩
  | look _ => exact .inl ⟨rfl, found⟩
  | context => exact .inl ⟨rfl, found⟩
  | change _ => exact .inl ⟨rfl, found⟩
  | emit _ => exact .inl ⟨rfl, found⟩

theorem seen_request {request : BusRequest ω}
    (noSend : ∀ message source destination, request ≠ .send message source destination)
    (found : world.network.endpoint? e = some endpoint)
    (after : next.network = (Network.perform request world.network).2)
    (same : ∀ endpoint', next.view e endpoint' = world.view e endpoint') :
    Seen e endpoint world request.occurrences next := by
  obtain ⟨silent, found'⟩ | ⟨loud, found'⟩ := perform_cases noSend found
  · exact seen_of_same after found' silent (same endpoint)
  · rw [loud]
    refine seen_one after found' rfl ?_
    rw [same]
    exact .tornDown

/-! ### Loops -/

/-- The owner's own step at an endpoint: the network and the stage change, nothing else. -/
theorem view_after {own : EndpointId} (site : Site ω σ) (loop : Option (Loop ω σ))
    (endpoint : Endpoint) :
    (world.after own site loop).view own endpoint =
      { world.view own endpoint with stage := (⟨site.mailbox.chain, loop⟩ : Owner ω σ).stage } := by
  simp only [view, World.after, owners_withOwner_self]
  rfl

theorem view_after_of_ne {own : EndpointId} (elsewhere : own ≠ e) (site : Site ω σ)
    (loop : Option (Loop ω σ)) (endpoint : Endpoint) :
    (world.after own site loop).view e endpoint = world.view e endpoint := by
  simp only [view, World.after, owners_withOwner_of_ne elsewhere]
  rfl

/-- What another owner does at its own mailbox leaves an endpoint alone. -/
theorem seen_elsewhere {own : EndpointId} {occurrences : List Occurrence} {site : Site ω σ}
    {loop : Option (Loop ω σ)} (elsewhere : own ≠ e)
    (found : world.network.endpoint? e = some endpoint)
    (same : site.network.endpoint? e = world.network.endpoint? e)
    (silent : heard e occurrences = []) :
    Seen e endpoint world occurrences (world.after own site loop) :=
  seen_of_same rfl (same.trans found) silent (view_after_of_ne elsewhere site loop endpoint)

theorem seen_workStep {own : EndpointId} {before after : Work ω σ} {site : Site ω σ}
    {loop : Option (Loop ω σ)} (step : WorkStep own world.network before after site.network)
    (stage : (world.owners own).stage = before.stage)
    (stage' : (⟨site.mailbox.chain, loop⟩ : Owner ω σ).stage = after.stage)
    (found : world.network.endpoint? e = some endpoint) :
    Seen e endpoint world (before.occurrences own after) (world.after own site loop) := by
  -- The step determines the network after it, which has to be a variable for the case analysis
  generalize reached : site.network = network at step
  by_cases here : own = e
  · subst here
    have view : ∀ endpoint', (world.after own site loop).view own endpoint' =
        { world.view own endpoint' with stage := after.stage } := by
      intro endpoint'
      rw [view_after, stage']
    cases step with
    | idle =>
      refine seen_of_same reached found rfl ?_
      rw [view]
      simp only [World.view, stage]
    | @take message _ taken =>
      obtain ⟨endpoint', rest, found', queue, rfl⟩ := Network.take_eq_some taken
      obtain rfl : endpoint' = endpoint := Option.some.inj (found'.symm.trans found)
      refine seen_one reached (Network.endpoint?_update_self found _) rfl ?_
      rw [view]
      exact .took stage queue
    | @release message down =>
      rw [Network.isTearingDown_eq found] at down
      refine seen_one reached (Network.endpoint?_update_self found _) rfl ?_
      rw [view]
      exact .released stage down
    | @begin message pass up =>
      rw [Network.isTearingDown_eq found] at up
      refine seen_one reached found rfl ?_
      rw [view]
      exact .began stage up
    | request noSend =>
      refine seen_request noSend found reached ?_
      intro endpoint'
      rw [view]
      simp only [World.view, stage, Work.stage]
    | @finish message result =>
      refine seen_one reached (Network.endpoint?_update_self found _) rfl ?_
      rw [view]
      exact .handled stage
  · have elsewhere : ∀ f : Endpoint → Endpoint,
        (world.network.update own f).endpoint? e = world.network.endpoint? e :=
      Network.endpoint?_update_of_ne here world.network
    cases step with
    | idle => exact seen_elsewhere here found (by rw [reached]) rfl
    | take taken =>
      obtain ⟨_, _, _, _, rfl⟩ := Network.take_eq_some taken
      exact seen_elsewhere here found (by rw [reached, elsewhere]) (heard_one_of_ne here)
    | release =>
      exact seen_elsewhere here found (reached ▸ elsewhere _) (heard_one_of_ne here)
    | begin => exact seen_elsewhere here found (by rw [reached]) (heard_one_of_ne here)
    | request noSend =>
      exact seen_request noSend found reached (view_after_of_ne here site loop)
    | finish =>
      exact seen_elsewhere here found (reached ▸ elsewhere _) (heard_one_of_ne here)

/-! ### All steps -/

/-- An owner that stays at its stage leaves every endpoint alone. -/
theorem seen_withOwner {own : EndpointId} {owner : Owner ω σ}
    (stage : owner.stage = (world.owners own).stage)
    (found : world.network.endpoint? e = some endpoint) :
    Seen e endpoint world [] (world.withOwner own owner) := by
  refine seen_of_same rfl found rfl ?_
  simp only [view, stage_withOwner stage]
  rfl

theorem seen_close {own : EndpointId} (rests : world.Rests (.owner own))
    (found : world.network.endpoint? e = some endpoint) :
    Seen e endpoint world [] (world.withNetwork (world.network.close own)) := by
  by_cases here : own = e
  · subst here
    exact seen_silent rfl (Network.endpoint?_update_self found _) rfl (.closed rests.stage)
  · exact seen_of_same rfl ((Network.endpoint?_update_of_ne here _ _).trans found) rfl rfl

/-- Every step of the world is a step of the view from each endpoint. -/
theorem viewStep_of_step {occurrences : List Occurrence} (step : Step B world occurrences next)
    (found : world.network.endpoint? e = some endpoint) :
    Seen e endpoint world occurrences next := by
  cases step with
  | refuse sends down => exact seen_refuse sends down found
  | test sends up => exact seen_test sends up found
  | deliver underWay delivered => exact seen_deliver underWay delivered found
  | ask _ noSend => exact seen_request noSend found rfl fun _ => rfl
  | enter rests free =>
    apply seen_withOwner _ found
    rw [rests.stage, Owner.stage_of_loop rfl, free]
    rfl
  | work loops noSend stepped =>
    have stage := Owner.stage_of_loop loops.1
    exact seen_workStep (workStep_of_step noSend stepped) stage rfl found
  | @takeLate own message site loops taken =>
    -- The view does not tell whether the flag was tested before
    have stage := Owner.stage_of_loop loops.1
    exact seen_workStep (.take (Site.take_eq_some taken)) stage rfl found
  | finish loops stepped =>
    have stage := Owner.stage_of_loop loops.1
    exact seen_workStep (workStep_of_ended stepped) stage rfl found
  | leave loops free =>
    apply seen_withOwner _ found
    rw [Owner.stage_of_loop loops.1, free]
    rfl
  | install chain rests => exact seen_withOwner rfl found
  | close rests => exact seen_close rests found
  | pass same => exact seen_of_same rfl (same found) rfl rfl

end Steps

end World

end AgentBus
