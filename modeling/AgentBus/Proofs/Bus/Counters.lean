import AgentBus.Proofs.Bus.DispatchOrder

/-!
# The counters of an endpoint

No message is lost unseen, and none is counted twice: whatever was sent to an endpoint was
dispatched, dropped, or is still in its queue (`conservation`). In between, a message is on its way
to the queue or in the hand of the owner, so the account that every step keeps has an entry for
each of these as well (`Accounted`).
-/

namespace AgentBus

/-! ## Sends under way -/

/-- The threads of which a message is on its way, each once. -/
structure UnderWay (inflight : ThreadId → Option Message) (threads : List ThreadId) : Prop where
  nodup : threads.Nodup
  mem : ∀ thread, thread ∈ threads ↔ inflight thread ≠ none

namespace UnderWay

variable {inflight : ThreadId → Option Message} {threads : List ThreadId} {thread : ThreadId}

theorem eq_nil (underWay : UnderWay inflight threads) (idle : ∀ thread, inflight thread = none) :
    threads = [] := by
  apply List.eq_nil_iff_forall_not_mem.mpr
  intro thread member
  exact (underWay.mem thread).mp member (idle thread)

theorem tested (underWay : UnderWay inflight threads) (idle : inflight thread = none)
    (message : Message) :
    UnderWay (Function.update inflight thread (some message)) (thread :: threads) where
  nodup := by
    apply List.nodup_cons.mpr
    refine ⟨?_, underWay.nodup⟩
    intro member
    exact (underWay.mem thread).mp member idle
  mem other := by
    by_cases same : other = thread
    · subst same
      simp
    · simp [same, underWay.mem]

theorem ended {message : Message} (underWay : UnderWay inflight threads)
    (going : inflight thread = some message) :
    ∃ rest, UnderWay (Function.update inflight thread none) rest ∧
      threads.length = rest.length + 1 := by
  have member : thread ∈ threads := (underWay.mem thread).mpr (by simp [going])
  refine ⟨threads.erase thread, ⟨underWay.nodup.erase thread, ?_⟩, ?_⟩
  · intro other
    rw [underWay.nodup.mem_erase_iff, underWay.mem]
    by_cases same : other = thread
    · simp [same]
    · simp [same]
  · have counted := List.length_erase_of_mem member
    have positive := List.length_pos_of_mem member
    omega

end UnderWay

/-! ## The account -/

/-- How many messages the owner has in hand. -/
@[simp] def Stage.inHand : Stage → Nat
  | .idle => 0
  | .taken _ => 1
  | .offering _ => 1

/-- The messages that reached an endpoint, or that it refused. -/
def View.received (view : View) : Nat :=
  view.dispatched + view.dropped + view.queue.length + view.stage.inHand

/-- The counters of an endpoint agree with what was sent to it. -/
structure Accounted (view : View) (history : List Occurrence) : Prop where
  queued : view.queued = (arrivals history).length
  ahead : view.dispatched + view.stage.inHand + view.queue.length ≤ view.queued
  /-- A closed mailbox loses its queue, and from then on the account is open. -/
  balance : view.served = true → ∃ threads, UnderWay view.inflight threads ∧
    (sendings history).length = view.received + threads.length

namespace Accounted

variable {view next : View} {history history' : List Occurrence}

/-- A step that leaves all sends under way where they are. -/
theorem moved (accounted : Accounted view history) (served : next.served = view.served)
    (inflight : next.inflight = view.inflight) (queued : next.queued = (arrivals history').length)
    (ahead : next.dispatched + next.stage.inHand + next.queue.length ≤ next.queued)
    (same : (sendings history').length + view.received =
      (sendings history).length + next.received) : Accounted next history' := by
  refine ⟨queued, ahead, ?_⟩
  rw [served, inflight]
  intro isServed
  obtain ⟨threads, underWay, total⟩ := accounted.balance isServed
  refine ⟨threads, underWay, ?_⟩
  omega

theorem step {e : EndpointId} {occurrences : List Occurrence} (accounted : Accounted view history)
    (step : ViewStep e view occurrences next) : Accounted next (history ++ occurrences) := by
  have queued := accounted.queued
  have ahead := accounted.ahead
  cases step with
  | quiet =>
    rw [List.append_nil]
    exact accounted
  | refused =>
    refine accounted.moved rfl rfl (by simpa using queued) ahead ?_
    simp only [View.received, sendings_snoc, Occurrence.sending?, Option.toList_some,
      List.length_append, List.length_singleton]
    omega
  | tested up idle =>
    refine ⟨by simpa using queued, ahead, ?_⟩
    intro served
    obtain ⟨threads, underWay, total⟩ := accounted.balance served
    refine ⟨_, underWay.tested idle _, ?_⟩
    simp only [View.received, sendings_snoc, Occurrence.sending?, Option.toList_some,
      List.length_append, List.length_cons, List.length_nil] at total ⊢
    omega
  | appended served going =>
    -- The thread's send ends, and its message is in the queue instead
    obtain ⟨threads, underWay, total⟩ := accounted.balance served
    obtain ⟨rest, underWay', fewer⟩ := underWay.ended going
    refine ⟨by simpa using queued, ?_, fun _ => ⟨rest, underWay', ?_⟩⟩
    · simp only [List.length_append, List.length_singleton]
      omega
    · simp only [View.received, sendings_snoc, Occurrence.sending?, Option.toList_none,
        List.append_nil, List.length_append, List.length_singleton] at total ⊢
      omega
  | lost unserved =>
    refine ⟨by simpa using queued, ahead, ?_⟩
    intro served
    exact absurd served (by simp [unserved])
  | took idle queue =>
    -- From the queue into the hand of the owner
    rw [idle, queue, List.length_cons] at ahead
    simp only [Stage.inHand] at ahead
    refine accounted.moved rfl rfl (by simpa using queued) ?_ ?_
    · simp only [Stage.inHand]
      omega
    · simp [View.received, idle, queue]
      omega
  | released taken =>
    rw [taken] at ahead
    simp only [Stage.inHand] at ahead
    refine accounted.moved rfl rfl (by simpa using queued) ?_ ?_
    · simp only [Stage.inHand]
      omega
    · simp [View.received, taken]
      omega
  | began taken =>
    rw [taken] at ahead
    refine accounted.moved rfl rfl (by simpa using queued) ahead ?_
    simp [View.received, taken]
  | handled offering =>
    rw [offering] at ahead
    simp only [Stage.inHand] at ahead
    refine accounted.moved rfl rfl (by simpa using queued) ?_ ?_
    · simp only [Stage.inHand]
      omega
    · simp [View.received, offering]
      omega
  | tornDown =>
    refine accounted.moved rfl rfl (by simpa using queued) ahead ?_
    simp [View.received]
  | closed =>
    -- The queue is lost, and nothing is promised of the balance any more
    refine ⟨by simpa using queued, ?_, nofun⟩
    simp only [List.length_nil]
    omega

end Accounted

namespace World

variable {ω σ : Type} {B : Behaviour ω σ}

/-- A send at one go is a send in two steps with nothing in between. -/
theorem Run.send {start world : World ω σ} {trace : List Occurrence} {thread : ThreadId}
    {transfer : Transfer} (run : Run B start trace world) (sends : world.Sends thread transfer) :
    let sent := world.network.send transfer.message transfer.source transfer.destination
    Run B start
      (trace ++ [.sent thread transfer.destination transfer.routed] ++
        sent.1.occurrences thread transfer)
      ((world.withNetwork sent.2).resume sent.1 thread) := by
  unfold Network.send
  cases flag : world.network.isTearingDown transfer.destination with
  | true =>
    rw [if_pos rfl]
    simp only [Delivery.occurrences, List.append_nil]
    exact run.snoc (.refuse sends flag)
  | false =>
    rw [if_neg Bool.false_ne_true]
    have tested := run.snoc (.test (B := B) sends flag)
    have underWay : (world.withTransfer thread (some transfer)).transfers thread = some transfer :=
      Function.update_self _ _ _
    have free : (world.withTransfer thread (some transfer)).withTransfer thread none = world := by
      rw [withTransfer, withTransfer, Function.update_idem, ← sends.no_transfer,
        Function.update_eq_self]
    have delivered := tested.snoc (.deliver underWay rfl)
    rw [free] at delivered
    exact delivered

theorem Run.accounted {start world : World ω σ} {trace : List Occurrence} {e : EndpointId}
    {name : String} (fresh : start.Fresh e)
    (new : start.network.endpoint? e = some { name }) (run : Run B start trace world) :
    ∃ endpoint, world.network.endpoint? e = some endpoint ∧
      Accounted (world.view e endpoint) (heard e trace) := by
  induction run with
  | nil =>
    have stage : (start.owners e).stage = .idle := Owner.stage_of_rest fresh.loop
    refine ⟨_, new, rfl, ?_, fun _ => ⟨[], ⟨List.nodup_nil, ?_⟩, ?_⟩⟩
    · simp [view, stage, Queue.toList_empty]
    · simp [view, fresh.inflight]
    · simp [view, View.received, stage, heard, sendings, Queue.toList_empty]
  | snoc _ step ih =>
    obtain ⟨endpoint, found, accounted⟩ := ih
    obtain ⟨endpoint', found', viewStep⟩ := viewStep_of_step step found
    refine ⟨endpoint', found', ?_⟩
    rw [heard_append]
    exact accounted.step viewStep

/-- In every run, at every endpoint that is new when the run begins. As long as the mailbox is
there, and whenever its owner is not at a message and no send to it is under way, the sends to the
endpoint are as many as the messages that were dispatched, those that were dropped and those in the
queue; at any time, what was accepted into the queue is counted as such, and no more was
dispatched. Once the mailbox is gone, a send is dropped and counted so, and nothing else. -/
theorem conservation {start world : World ω σ} {trace : List Occurrence} {e : EndpointId}
    {name : String} (fresh : start.Fresh e)
    (new : start.network.endpoint? e = some { name }) (run : Run B start trace world) :
    ∃ endpoint, world.network.endpoint? e = some endpoint ∧
      (endpoint.served = true → (world.owners e).stage = .idle →
        (∀ thread transfer, world.transfers thread = some transfer → transfer.destination ≠ e) →
          (sendings (heard e trace)).length =
            endpoint.dispatched + endpoint.dropped + endpoint.queue.toList.length) ∧
      endpoint.queued = (arrivals (heard e trace)).length ∧
      endpoint.dispatched ≤ endpoint.queued ∧
      (endpoint.served = false → ∀ message source,
        (world.network.send message source e).1 = .dropped ∧
        (world.network.send message source e).2.endpoint? e =
          some { endpoint with dropped := endpoint.dropped + 1 }) := by
  obtain ⟨endpoint, found, accounted⟩ := run.accounted fresh new
  refine ⟨endpoint, found, ?_, accounted.queued, ?_, ?_⟩
  · intro served idle nobody
    obtain ⟨threads, underWay, total⟩ := accounted.balance served
    have silent : ∀ thread, world.inflight e thread = none := by
      intro thread
      cases going : world.transfers thread with
      | none => exact inflight_of_no_transfer going e
      | some transfer =>
        rw [World.inflight, going, Option.bind_some, Transfer.toward,
          if_neg (nobody thread transfer going)]
    rw [underWay.eq_nil silent, List.length_nil] at total
    simpa [view, View.received, idle] using total
  · have ahead := accounted.ahead
    simp only [view] at ahead
    omega
  · intro unserved message source
    unfold Network.send
    split
    · exact ⟨rfl, Network.endpoint?_update_self found _⟩
    · rw [Network.deliver_unserved found unserved]
      exact ⟨rfl, Network.endpoint?_update_self found _⟩

/-- Of the three sends to the endpoint one was dispatched, and two were dropped. -/
theorem conservation_late :
    ∃ world endpoint, Run idleBehaviour single lateTrace world ∧
      world.network.endpoint? ⟨0⟩ = some endpoint ∧
      (sendings (heard ⟨0⟩ lateTrace)).length = 1 + 2 + 0 ∧ endpoint.queued = 2 := by
  obtain ⟨world, endpoint, run, found, served, dispatched, dropped, queue, idle, nobody⟩ := run_late
  obtain ⟨endpoint', found', balance, queued, _⟩ := conservation fresh_single rfl run
  obtain rfl : endpoint = endpoint' := Option.some.inj (found.symm.trans found')
  have balanced := balance served idle fun thread transfer going =>
    nomatch (nobody thread).symm.trans going
  rw [dispatched, dropped, queue] at balanced
  exact ⟨world, endpoint, run, found, balanced, queued.trans (by decide)⟩

end World

end AgentBus
