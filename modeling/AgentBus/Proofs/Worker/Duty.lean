import AgentBus.Proofs.Bus.DispatchOrder
import AgentBus.Proofs.Worker.Serving

/-!
# A worker's loop amid other threads

`Thread.Step` is what may happen while a worker is in its loop: a step of the worker, or a request
of another thread, each at one go. Seen from the worker's endpoint there is little to tell of it:
where the loop is (`Duty`), and the record of the endpoint. `DutyStep` lists what can become of
these two, and `dutyStep_of_step` says that there is nothing else.
-/

namespace AgentBus

variable {ω σ : Type} {B : Behaviour ω σ}

/-! ## What occurs -/

/-- What occurs in a request that a thread makes at one go. -/
def BusRequest.effects (thread : ThreadId) (net : Network ω) : BusRequest ω → List Occurrence
  | .send message source destination =>
    .sent thread destination (message.routed source destination) ::
      (net.send message source destination).1.occurrences thread ⟨message, source, destination⟩
  | request => request.occurrences

/-- What occurs in a step of a loop that leads from one work to another. -/
def Work.effects (own : EndpointId) (net : Network ω) : Work ω σ → Work ω σ → List Occurrence
  | .offering _ (.ask request _), _ => request.effects (.owner own) net
  | work, next => work.occurrences own next

namespace Thread

/-- What occurs in a step of a thread that leads to another phase. -/
def effects (thread : Thread ω σ) (net : Network ω) (after : Thread ω σ) : List Occurrence :=
  match thread.phase, after.phase with
  | .looping loop _ _, .looping next _ _ => loop.work.effects thread.own net next.work
  | .looping loop _ _, _ => loop.work.effects thread.own net .free
  | .leaving _, _ => [.tornDown thread.own]
  | .opening (.ask request _), _ => request.effects (.owner thread.own) net
  | _, _ => []

/-- What may happen while a thread is at work, and what occurs in it. -/
inductive Step (B : Behaviour ω σ) (thread : Thread ω σ) (net : Network ω) :
    List Occurrence → Thread ω σ → Network ω → Prop where
  | own {after : Thread ω σ} {net' : Network ω} : thread.step B net = some (after, net') →
      Step B thread net (thread.effects net after) after net'
  /-- The loop takes a message although the flag was set since it tested it. -/
  | takeLate {task : List (BusProgram ω Unit)} {code : Int32} {message : Message}
      {site : Site ω σ} : thread.phase = .looping .serving task code →
      (thread.context.site net).take = some (message, site) →
      Step B thread net [.took thread.own message]
        ⟨thread.worker, thread.context.after site, .looping ⟨.serving, .taken message⟩ task code⟩
        site.network
  /-- Another thread makes a request. -/
  | request (number : Nat) (request : BusRequest ω) :
      Step B thread net (request.effects (.other number) net) thread
        (Network.perform request net).2
  /-- Whatever else changes on the network, the endpoint of the thread stays as it is. -/
  | pass {net' : Network ω} : net'.endpoint? thread.own = net.endpoint? thread.own →
      Step B thread net [] thread net'

/-- Any number of such steps, with the trace of what occurred in them. -/
inductive Run (B : Behaviour ω σ) (start : Thread ω σ) (net : Network ω) :
    List Occurrence → Thread ω σ → Network ω → Prop where
  | nil : Run B start net [] start net
  | snoc {trace occurrences : List Occurrence} {thread after : Thread ω σ}
      {between net' : Network ω} : Run B start net trace thread between →
      Step B thread between occurrences after net' →
      Run B start net (trace ++ occurrences) after net'

end Thread

/-! ## Duties -/

/-- Where a worker is that has begun its loop. -/
inductive Duty where
  | loop (mode : LoopMode) (stage : Stage)
  | leaving
  | returned

def ThreadPhase.duty? : ThreadPhase ω σ → Option Duty
  | .looping loop _ _ => some (.loop loop.mode loop.work.stage)
  | .leaving _ => some .leaving
  | .returned _ => some .returned
  | .opening _ => none
  | .panicked => none

/-- The mode of a loop after it has found a message. -/
def LoopMode.found : LoopMode → LoopMode
  | .serving => .serving
  | .draining limit _ taken => .draining limit 0 (taken + 1)

/-- What can become of a worker and of the record of its endpoint, and what occurs there. In the end
the worker drains its endpoint until it has found it empty `limit` times in a row. -/
inductive DutyStep (e : EndpointId) (limit : Nat) :
    Duty → Endpoint → List Occurrence → Duty → Endpoint → Prop where
  | quiet {duty : Duty} {endpoint : Endpoint} : DutyStep e limit duty endpoint [] duty endpoint
  | refused {duty : Duty} {endpoint : Endpoint} {thread : ThreadId} {message : Message} :
      endpoint.tearingDown = true →
      DutyStep e limit duty endpoint [.sent thread e message] duty
        { endpoint with dropped := endpoint.dropped + 1 }
  | queued {duty : Duty} {endpoint : Endpoint} {thread : ThreadId} {message : Message} :
      endpoint.tearingDown = false →
      DutyStep e limit duty endpoint [.sent thread e message, .appended thread e message] duty
        (endpoint.enqueue message)
  | tornDown {duty : Duty} {endpoint : Endpoint} :
      DutyStep e limit duty endpoint [.tornDown e] duty { endpoint with tearingDown := true }
  | took {mode : LoopMode} {endpoint : Endpoint} {message : Message} {rest : Queue Message} :
      endpoint.queue.toList = message :: rest.toList →
      DutyStep e limit (.loop mode .idle) endpoint [.took e message]
        (.loop mode.found (.taken message)) { endpoint with queue := rest }
  | polled {enough idle taken : Nat} {endpoint : Endpoint} : endpoint.queue.toList = [] →
      DutyStep e limit (.loop (.draining enough idle taken) .idle) endpoint []
        (.loop (.draining enough (idle + 1) taken) .idle) endpoint
  | released {mode : LoopMode} {endpoint : Endpoint} {message : Message} :
      endpoint.tearingDown = true →
      DutyStep e limit (.loop mode (.taken message)) endpoint [.released e message]
        (.loop mode .idle) { endpoint with dropped := endpoint.dropped + 1 }
  | began {mode : LoopMode} {endpoint : Endpoint} {message : Message} :
      endpoint.tearingDown = false →
      DutyStep e limit (.loop mode (.taken message)) endpoint [.began e message]
        (.loop mode (.offering message)) endpoint
  | handled {mode : LoopMode} {endpoint : Endpoint} {message : Message} :
      (mode = .serving → message.isExit = false) →
      DutyStep e limit (.loop mode (.offering message)) endpoint [.handled e message]
        (.loop mode .idle) { endpoint with dispatched := endpoint.dispatched + 1 }
  | exited {endpoint : Endpoint} {message : Message} : message.isExit = true →
      DutyStep e limit (.loop .serving (.offering message)) endpoint [.handled e message] .leaving
        { endpoint with dispatched := endpoint.dispatched + 1 }
  | stopped {endpoint : Endpoint} : endpoint.tearingDown = true →
      DutyStep e limit (.loop .serving .idle) endpoint [] .leaving endpoint
  | left {endpoint : Endpoint} :
      DutyStep e limit .leaving endpoint [.tornDown e] (.loop (.draining limit 0 0) .idle)
        { endpoint with tearingDown := true }
  | drained {enough idle taken : Nat} {endpoint : Endpoint} : enough ≤ idle →
      DutyStep e limit (.loop (.draining enough idle taken) .idle) endpoint [] .returned endpoint

theorem DutyStep.seen {e : EndpointId} {limit : Nat} {duty duty' : Duty}
    {endpoint endpoint' : Endpoint} {occurrence : Occurrence} (here : occurrence.endpoint = e)
    (step : DutyStep e limit duty endpoint [occurrence] duty' endpoint') :
    DutyStep e limit duty endpoint (heard e [occurrence]) duty' endpoint' := by
  rw [heard_one_self here]
  exact step

theorem DutyStep.served {e : EndpointId} {limit : Nat} {duty duty' : Duty}
    {endpoint endpoint' : Endpoint} {occurrences : List Occurrence}
    (step : DutyStep e limit duty endpoint occurrences duty' endpoint') :
    endpoint'.served = endpoint.served := by
  cases step <;> rfl

/-! ### Requests -/

section Requests

variable {net : Network ω} {e : EndpointId} {endpoint : Endpoint}

theorem heard_occurrences_of_ne {destination : EndpointId} (other : destination ≠ e)
    (thread : ThreadId) (message : Message) (source : EndpointId) (delivery : Delivery) :
    heard e (delivery.occurrences thread ⟨message, source, destination⟩) = [] := by
  cases delivery with
  | queued => exact heard_one_of_ne other
  | dropped => rfl

/-- A send at one go, as it is seen from an endpoint that has its mailbox. -/
theorem dutyStep_send (found : net.endpoint? e = some endpoint) (served : endpoint.served = true)
    (limit : Nat) (duty : Duty) (thread : ThreadId) (message : Message)
    (source destination : EndpointId) :
    ∃ endpoint', (net.send message source destination).2.endpoint? e = some endpoint' ∧
      DutyStep e limit duty endpoint
        (heard e ((BusRequest.send message source destination).effects thread net)) duty
        endpoint' := by
  by_cases here : destination = e
  case neg =>
    refine ⟨endpoint, (Network.endpoint?_send_of_ne here net message source).trans found, ?_⟩
    have silent :
        heard e ((BusRequest.send message source destination).effects thread net) = [] := by
      rw [BusRequest.effects, heard, List.filter_cons_of_neg (by simp [Occurrence.endpoint, here])]
      exact heard_occurrences_of_ne here thread message source _
    rw [silent]
    exact .quiet
  subst here
  cases down : endpoint.tearingDown with
  | true =>
    have refused : ¬ net.Accepts destination := by
      intro accepts
      rw [← Network.isTearingDown_eq found, accepts.not_isTearingDown] at down
      exact Bool.false_ne_true down
    have sent := Network.send_of_not_accepts refused message source
    have shown : heard destination
        ((BusRequest.send message source destination).effects thread net) =
          [.sent thread destination (message.routed source destination)] := by
      rw [BusRequest.effects, sent]
      exact heard_one_self rfl
    rw [shown, sent]
    exact ⟨_, Network.endpoint?_update_self found _, .refused down⟩
  | false =>
    have accepts : net.Accepts destination := ⟨endpoint, found, served, down⟩
    have sent := Network.send_of_accepts accepts message source
    have shown : heard destination
        ((BusRequest.send message source destination).effects thread net) =
          [.sent thread destination (message.routed source destination),
            .appended thread destination (message.routed source destination)] := by
      rw [BusRequest.effects, sent]
      simp [heard, Delivery.occurrences, Occurrence.endpoint, Transfer.routed]
    rw [shown, sent]
    exact ⟨_, Network.endpoint?_update_self found _, .queued down⟩

/-- Any request is seen as a send, as the flag being set, or not at all. -/
theorem dutyStep_request (found : net.endpoint? e = some endpoint) (served : endpoint.served = true)
    (limit : Nat) (duty : Duty) (thread : ThreadId) (request : BusRequest ω) :
    ∃ endpoint', (Network.perform request net).2.endpoint? e = some endpoint' ∧
      DutyStep e limit duty endpoint (heard e (request.effects thread net)) duty endpoint' := by
  cases request with
  | send message source destination =>
    exact dutyStep_send found served limit duty thread message source destination
  | tearDown id =>
    by_cases here : id = e
    · subst here
      have shown : heard id ((BusRequest.tearDown id).effects thread net) = [.tornDown id] :=
        heard_one_self rfl
      rw [shown]
      exact ⟨_, Network.endpoint?_update_self found _, .tornDown⟩
    · have silent : heard e ((BusRequest.tearDown id).effects thread net) = [] :=
        heard_one_of_ne here
      rw [silent]
      exact ⟨endpoint, (Network.endpoint?_update_of_ne here net _).trans found, .quiet⟩
  | look id => exact ⟨endpoint, found, .quiet⟩
  | context => exact ⟨endpoint, found, .quiet⟩
  | change change => exact ⟨endpoint, found, .quiet⟩
  | emit output => exact ⟨endpoint, found, .quiet⟩

end Requests

/-! ### Steps of the loop -/

theorem LoopMode.found_of_look {mode mode' : LoopMode} {message : Message} {site after : Site ω σ}
    (looked : Loop.look mode site = .working ⟨mode', .taken message⟩ after) :
    mode' = mode.found := by
  cases mode with
  | serving =>
    simp only [Loop.look] at looked
    split at looked
    · contradiction
    · contradiction
    · obtain ⟨same, _⟩ := LoopStep.working.inj looked
      exact (congrArg Loop.mode same).symm
  | draining limit idle taken =>
    simp only [Loop.look] at looked
    split at looked
    · contradiction
    split at looked
    · obtain ⟨same, _⟩ := LoopStep.working.inj looked
      cases congrArg Loop.work same
    · obtain ⟨same, _⟩ := LoopStep.working.inj looked
      exact (congrArg Loop.mode same).symm

section Loops

variable {loop next : Loop ω σ} {site after : Site ω σ} {endpoint : Endpoint}

theorem dutyStep_loop (found : site.network.endpoint? site.own = some endpoint)
    (served : endpoint.served = true) (limit : Nat)
    (stepped : loop.step B site = .working next after) :
    ∃ endpoint', after.network.endpoint? site.own = some endpoint' ∧
      DutyStep site.own limit (.loop loop.mode loop.work.stage) endpoint
        (heard site.own (loop.work.effects site.own site.network next.work))
        (.loop next.mode next.work.stage) endpoint' := by
  have goes := loop.goes_step (B := B) site
  rw [stepped] at goes
  obtain ⟨mode, work⟩ := loop
  cases goes with
  | poll same below empty =>
    obtain ⟨rfl, rfl⟩ := Loop.mk.inj same
    refine ⟨endpoint, found, .polled ?_⟩
    rw [← Network.queueAt_eq found]
    exact Site.take_eq_none empty found
  | @take mode' message net free _ _ taken =>
    obtain rfl : work = .free := free
    obtain rfl : mode' = mode.found := LoopMode.found_of_look stepped
    obtain ⟨endpoint', rest, found', queue, rfl⟩ := Network.take_eq_some taken
    obtain rfl := Option.some.inj (found.symm.trans found')
    exact ⟨_, Network.endpoint?_update_self found _, .seen rfl (.took queue)⟩
  | drop taken down =>
    obtain rfl : work = .taken _ := taken
    rw [Site.isTearingDown, Network.isTearingDown_eq found] at down
    exact ⟨_, Network.endpoint?_update_self found _, .seen rfl (.released down)⟩
  | begin taken up =>
    obtain rfl : work = .taken _ := taken
    rw [Site.isTearingDown, Network.isTearingDown_eq found] at up
    exact ⟨endpoint, found, .seen rfl (.began up)⟩
  | ask offering =>
    obtain rfl : work = .offering _ (.ask _ _) := offering
    exact dutyStep_request found served limit _ (.owner site.own) _
  | finish offering stays =>
    obtain rfl : work = .offering _ (.done _) := offering
    exact ⟨_, Network.endpoint?_update_self found _, .seen rfl (.handled stays)⟩

/-- The end of a loop. -/
theorem dutyStep_ended {how : LoopEnd} (found : site.network.endpoint? site.own = some endpoint)
    (limit : Nat) (code : Int32) (stepped : loop.step B site = .ended how after) :
    ∃ endpoint' duty, after.network.endpoint? site.own = some endpoint' ∧
      (Thread.afterLoop code how : ThreadPhase ω σ).duty? = some duty ∧
      DutyStep site.own limit (.loop loop.mode loop.work.stage) endpoint
        (heard site.own (loop.work.effects site.own site.network .free)) duty endpoint' := by
  have goes := loop.goes_step (B := B) site
  rw [stepped] at goes
  cases goes with
  | exited same exits =>
    subst same
    exact ⟨_, .leaving, Network.endpoint?_update_self found _, rfl, .seen rfl (.exited exits)⟩
  | released same down =>
    subst same
    rw [Site.isTearingDown, Network.isTearingDown_eq found] at down
    exact ⟨endpoint, .leaving, found, rfl, .stopped down⟩
  | drained same enough =>
    subst same
    exact ⟨endpoint, .returned, found, rfl, .drained enough⟩

end Loops

/-! ### Steps of the worker -/

namespace Thread

variable {thread after : Thread ω σ} {net net' : Network ω} {endpoint : Endpoint} {duty : Duty}

theorem dutyStep_own (found : net.endpoint? thread.own = some endpoint)
    (served : endpoint.served = true) (stands : thread.phase.duty? = some duty)
    (stepped : thread.step B net = some (after, net')) :
    ∃ duty' endpoint', after.phase.duty? = some duty' ∧
      net'.endpoint? thread.own = some endpoint' ∧
      DutyStep thread.own thread.drainLimit duty endpoint
        (heard thread.own (thread.effects net after)) duty' endpoint' := by
  obtain ⟨worker, context, phase⟩ := thread
  have here : (context.site net).network.endpoint? (context.site net).own = some endpoint := found
  cases goes_step stepped with
  -- A thread with a duty is past its opening
  | ask | panic | skip | serve => contradiction
  | loop looped =>
    obtain rfl := Option.some.inj stands
    obtain ⟨endpoint', found', step⟩ := dutyStep_loop here served _ looped
    exact ⟨_, endpoint', rfl, found', step⟩
  | @ended loop task code how site looped =>
    obtain rfl := Option.some.inj stands
    obtain ⟨endpoint', duty', found', stands', step⟩ := dutyStep_ended here _ code looped
    refine ⟨duty', endpoint', stands', found', ?_⟩
    cases how with
    | exited | released | drained => exact step
  | leave =>
    obtain rfl := Option.some.inj stands
    exact ⟨_, _, rfl, Network.endpoint?_update_self found _, .seen rfl .left⟩

theorem drainLimit_step (stepped : thread.step B net = some (after, net')) :
    after.drainLimit = thread.drainLimit := by
  obtain ⟨worker, context, phase⟩ := thread
  cases goes_step stepped with
  | ask | panic | skip | serve | loop | ended | leave => rfl

/-- A worker that is past its opening stays on its endpoint, and whatever happens is one of the
steps that are seen there. -/
theorem dutyStep_of_step {occurrences : List Occurrence}
    (found : net.endpoint? thread.own = some endpoint) (served : endpoint.served = true)
    (stands : thread.phase.duty? = some duty) (step : thread.Step B net occurrences after net') :
    after.own = thread.own ∧ after.drainLimit = thread.drainLimit ∧
      ∃ duty' endpoint', after.phase.duty? = some duty' ∧
        net'.endpoint? thread.own = some endpoint' ∧
        DutyStep thread.own thread.drainLimit duty endpoint (heard thread.own occurrences) duty'
          endpoint' := by
  cases step with
  | own stepped =>
    have kept : Keeps (fun _ _ => True) thread after net net' :=
      keeps_step B.makes_anything BusRequest.common_anything thread.phase.makes_anything stepped
    exact ⟨kept.own, drainLimit_step stepped, dutyStep_own found served stands stepped⟩
  | takeLate serving taken =>
    rw [serving] at stands
    obtain rfl := Option.some.inj stands
    obtain ⟨⟨oldest, network⟩, took, same⟩ := Option.map_eq_some_iff.mp taken
    obtain ⟨rfl, rfl⟩ := Prod.mk.inj same
    obtain ⟨endpoint', rest, found', queue, rfl⟩ := Network.take_eq_some took
    obtain rfl := Option.some.inj (found.symm.trans found')
    exact ⟨rfl, rfl, _, _, rfl, Network.endpoint?_update_self found _, .seen rfl (.took queue)⟩
  | request number request =>
    obtain ⟨endpoint', found', step⟩ :=
      dutyStep_request found served thread.drainLimit duty (.other number) request
    exact ⟨rfl, rfl, duty, endpoint', stands, found', step⟩
  | pass same => exact ⟨rfl, rfl, duty, endpoint, stands, same.trans found, .quiet⟩

/-! ### Loops without a pause -/

/-- A thread that is past its opening and has no task beside its loop. -/
def Jobless (thread : Thread ω σ) : Prop :=
  match thread.phase with
  | .opening _ => False
  | .looping _ task _ => task = []
  | _ => True

theorem Jobless.taskStep (jobless : thread.Jobless) (net : Network ω) :
    thread.taskStep net = none := by
  cases stepped : thread.taskStep net with
  | none => rfl
  | some reached =>
    obtain ⟨job, rest, code, serving, -, -⟩ := taskStep_eq_some stepped
    rw [Jobless, serving] at jobless
    contradiction

theorem Jobless.step (jobless : thread.Jobless) (stepped : thread.step B net = some (after, net')) :
    after.Jobless := by
  obtain ⟨worker, context, phase⟩ := thread
  cases goes_step stepped with
  | ask | panic | skip | serve => contradiction
  | loop => exact jobless
  | @ended loop task code how => cases how <;> trivial
  | leave => rfl

theorem Jobless.run (jobless : thread.Jobless) {start : Thread ω σ} {net₀ : Network ω}
    {trace : List Occurrence} (ran : Run B start net₀ trace thread net) (fuel : Nat) :
    ∃ trace', Run B start net₀ trace' (thread.run B fuel net).1 (thread.run B fuel net).2 := by
  induction fuel generalizing thread net trace with
  | zero => exact ⟨trace, ran⟩
  | succ fuel ih =>
    unfold Thread.run
    split
    · next after net' stepped => exact ih (jobless.step stepped) (ran.snoc (.own stepped))
    · rw [jobless.taskStep]
      exact ⟨trace, ran⟩

end Thread

/-- A loop that is run without a pause is a run in which nobody else does anything. -/
theorem WorkerContext.runLoop_run (context : WorkerContext σ) (net : Network ω) (fuel : Nat) :
    ∃ trace thread, Thread.Run B (.serving context []) net trace thread
        (context.runLoop B fuel [] net).2.2 ∧
      (context.runLoop B fuel [] net).1 = thread.hasEnded := by
  have jobless : (Thread.serving context [] : Thread ω σ).Jobless := rfl
  obtain ⟨trace, ran⟩ := jobless.run (B := B) .nil fuel
  exact ⟨trace, _, ran, rfl⟩

end AgentBus
