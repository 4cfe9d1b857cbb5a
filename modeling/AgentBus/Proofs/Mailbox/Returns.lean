import AgentBus.Proofs.Bus.Amid
import AgentBus.Proofs.Bus.Counters

/-!
# Answers on their way back

A message in a queue carries the route of the send that brought it there (`World.Run.exists_sent`),
and the dispatch of a message sends the answers of the handlers back along that route. `Turns` is
what a dispatch does while others act in between: one handler after the other makes its own
requests, and what it returned is sent at once, before the next one is called (`SentBack`). No other
requests are made, so the message itself goes nowhere.

A handler has the message in its hands, and an answer goes by the route that the message has
afterwards. Handlers that leave it (`KeepRoutes`) answer the one that sent the message; one that
puts another message in its place answers nobody (`answers_return_astray`).

What others may do is any `Network.Interference`. In a run the network ages (`World.Run.ages`), and
when a mailbox dispatches at one go nobody acts in between.
-/

namespace AgentBus

variable {ω σ : Type} {B : Behaviour ω σ}

/-! ## Runs as interference -/

theorem ViewStep.ages {e : EndpointId} {view next : View} {occurrences : List Occurrence}
    (step : ViewStep e view occurrences next) :
    (view.tearingDown = true → next.tearingDown = true) ∧
      (view.served = false → next.served = false) := by
  cases step with
  | tornDown => exact ⟨fun _ => rfl, id⟩
  | closed => exact ⟨id, fun _ => rfl⟩
  | quiet | refused | tested | appended | lost | took | released | began | handled =>
    exact ⟨id, id⟩

/-- Whatever the threads do, the network ages. -/
theorem World.Run.ages {start world : World ω σ} {trace : List Occurrence}
    (run : World.Run B start trace world) : start.network.Ages world.network := by
  induction run with
  | nil => exact .refl _
  | snoc _ step ih =>
    refine ih.trans fun e endpoint found => ?_
    obtain ⟨endpoint', found', viewStep⟩ := viewStep_of_step step found
    exact ⟨endpoint', found', viewStep.ages⟩

/-! ## Routes in queues -/

section Routes

variable {start world next : World ω σ} {trace occurrences : List Occurrence}
variable {thread : ThreadId} {e : EndpointId} {message : Message}

theorem BusRequest.not_sent_mem (request : BusRequest ω) :
    .sent thread e message ∉ request.occurrences := by
  cases request with
  | tearDown endpoint => simp [BusRequest.occurrences]
  | _ => exact nofun

theorem Work.not_sent_mem (own : EndpointId) (work work' : Work ω σ) :
    .sent thread e message ∉ work.occurrences own work' := by
  intro sent
  unfold Work.occurrences at sent
  split at sent
  all_goals first
    | exact BusRequest.not_sent_mem _ sent
    | simp at sent

/-- The sends that occur in a step are those of the step, with their routes. -/
theorem World.Step.routed (step : World.Step B world occurrences next)
    (sent : .sent thread e message ∈ occurrences) :
    ∃ transfer : Transfer, transfer.destination = e ∧ transfer.routed = message := by
  cases step with
  | refuse | test =>
    obtain ⟨rfl, rfl, rfl⟩ := Occurrence.sent.inj (List.mem_singleton.mp sent)
    exact ⟨_, rfl, rfl⟩
  | @deliver _ transfer delivery =>
    cases delivery with
    | queued => exact nomatch List.mem_singleton.mp sent
    | dropped => exact nomatch sent
  | ask => exact absurd sent (BusRequest.not_sent_mem _)
  | work | finish => exact absurd sent (Work.not_sent_mem _ _ _)
  | takeLate => exact nomatch List.mem_singleton.mp sent
  | enter | leave | install | close | pass => exact nomatch sent

theorem World.Run.routed (run : World.Run B start trace world)
    (sent : .sent thread e message ∈ trace) :
    ∃ transfer : Transfer, transfer.destination = e ∧ transfer.routed = message := by
  induction run with
  | nil => exact nomatch sent
  | snoc _ step ih =>
    rcases List.mem_append.mp sent with before | now
    · exact ih before
    · exact step.routed now

theorem mem_ofThread {marked : List (ThreadId × Message)} :
    message ∈ ofThread thread marked ↔ (thread, message) ∈ marked := by
  simp [ofThread]

theorem sent_mem_of_sendings (member : (thread, message) ∈ sendings (heard e trace)) :
    .sent thread e message ∈ trace := by
  obtain ⟨occurrence, occurred, isSent⟩ := List.mem_filterMap.mp member
  cases occurrence with
  | sent other endpoint sent =>
    obtain ⟨rfl, rfl⟩ := Prod.mk.inj (Option.some.inj isSent)
    obtain ⟨among, here⟩ := List.mem_filter.mp occurred
    obtain rfl : endpoint = e := of_decide_eq_true here
    exact among
  | _ => contradiction

/-- Every message in a queue was sent to its endpoint, and carries the route of that send. -/
theorem World.Run.exists_sent (fresh : start.Fresh e) (run : World.Run B start trace world)
    (queued : message ∈ world.network.queueAt e) :
    ∃ thread, ∃ transfer : Transfer, .sent thread e message ∈ trace ∧
      transfer.destination = e ∧ transfer.routed = message := by
  obtain ⟨endpoint, found, ordered⟩ := run.ordered fresh
  rw [Network.queueAt_eq found] at queued
  -- What is in the queue has arrived, and what has arrived from a thread was sent by it
  have arrived : message ∈ (arrivals (heard e trace)).map Prod.snd :=
    ordered.queued.first.subset (List.mem_append_right _ queued)
  obtain ⟨⟨thread, arrival⟩, member, same⟩ := List.mem_map.mp arrived
  obtain rfl : arrival = message := same
  have sending := (ordered.sent thread).first.subset (mem_ofThread.mpr member)
  have sent := sent_mem_of_sendings (mem_ofThread.mp sending)
  obtain ⟨transfer, destination, routed⟩ := run.routed sent
  exact ⟨thread, transfer, sent, destination, routed⟩

end Routes

/-! ## Turns -/

/-- What is done about the answer of a handler that has left the message with this route. If the
sender of the message is found to exist, the answer is sent to it, from where the message was sent
to, or from `E` if that is gone; if the sender is gone, nothing more is done, and nothing at all if
the message has no route. -/
inductive SentBack (others : Network ω → Network ω → Prop) (E : EndpointId) (net : Network ω) :
    Option Route → Option Message → List (BusRequest ω) → Network ω → Prop where
  | silent {route : Option Route} : SentBack others E net route none [] net
  | unrouted {answer : Message} : SentBack others E net none (some answer) [] net
  | gone {S D : EndpointId} {answer : Message} {after : Network ω} : others net after →
      after.living? S = none → SentBack others E net (some ⟨S, D⟩) (some answer) [.look S] after
  | sent {S D responder : EndpointId} {answer : Message} {found seen after : Network ω} :
      others net found → (found.living? S).isSome = true → others found seen →
      responder = (if (seen.living? D).isSome then D else E) →
      seen.Lands others (answer.routed responder S) S after →
      SentBack others E net (some ⟨S, D⟩) (some answer)
        [.look S, .look D, .send answer responder S] after

/-- What the pass of a message over handlers of `E` does while others act in between: the requests
in order, and the network after them. An answer goes back along the route that `way` tells of the
message as the handler has left it. -/
inductive Turns (B : Behaviour ω σ) (others : Network ω → Network ω → Prop)
    (way : Message → Option Route) (E : EndpointId) (bound : Bool) :
    List (Entry σ) → Message → List ChainChange → Network ω → List (BusRequest ω) → Network ω →
      Prop where
  | nil {message : Message} {changes : List ChainChange} {net : Network ω} :
      Turns B others way E bound [] message changes net [] net
  | skip {entry : Entry σ} {rest : List (Entry σ)} {message : Message}
      {changes : List ChainChange} {log : List (BusRequest ω)} {net after : Network ω} :
      entry.enabled = false → Turns B others way E bound rest message changes net log after →
      Turns B others way E bound (entry :: rest) message changes net log after
  /-- A handler is called, its answer is sent, and only then the next one is called. -/
  | call {entry : Entry σ} {rest : List (Entry σ)} {message : Message}
      {changes changes' : List ChainChange} {handled : Handled σ}
      {requests answering later : List (BusRequest ω)} {net returned answered after : Network ω} :
      entry.enabled = true →
      Performs others
        (collect (B.handle (Chain.scope E bound entry) entry.handler message) changes) net requests
        (handled, changes') returned →
      SentBack others E returned (way handled.message) handled.answer answering answered →
      Turns B others way E bound rest handled.message changes' answered later after →
      Turns B others way E bound (entry :: rest) message changes net
        (requests ++ answering ++ later) after

/-- Handlers leave the route of every message as it is. -/
def KeepRoutes (B : Behaviour ω σ) (others : Network ω → Network ω → Prop) (E : EndpointId)
    (bound : Bool) (entries : List (Entry σ)) : Prop :=
  ∀ entry ∈ entries, ∀ (message : Message) (changes changes' : List ChainChange)
    (net returned : Network ω) (requests : List (BusRequest ω)) (handled : Handled σ),
    Performs others
      (collect (B.handle (Chain.scope E bound entry) entry.handler message) changes) net requests
      (handled, changes') returned →
    handled.message.route = message.route

/-- What the pass of a message over a chain of `E` does: each answer goes back along the route that
the message has when its handler returns, and so all of them along the route with which the message
came, if the handlers leave it. -/
structure Returned (B : Behaviour ω σ) (others : Network ω → Network ω → Prop) (E : EndpointId)
    (chain : Chain σ) (message : Message) (net : Network ω) (log : List (BusRequest ω))
    (after : Network ω) : Prop where
  turns : Turns B others Message.route E chain.bound chain.entries message [] net log after
  kept : KeepRoutes B others E chain.bound chain.entries → ∀ S D, message.route = some ⟨S, D⟩ →
    Turns B others (fun _ => some ⟨S, D⟩) E chain.bound chain.entries message [] net log after

theorem endpoint?_of_living {net : Network ω} {e : EndpointId} {endpoint : Endpoint}
    (living : net.living? e = some endpoint) : net.endpoint? e = some endpoint := by
  unfold Network.living? at living
  split at living
  · exact living
  · contradiction

section Returning

variable {others : Network ω → Network ω → Prop} {E : EndpointId} {bound : Bool}
variable {entries : List (Entry σ)} {message : Message} {changes : List ChainChange}
variable {net after : Network ω} {log : List (BusRequest ω)}

theorem SentBack.of_returnAnswer {answer : Message}
    (performs : Performs others (Chain.returnAnswer E message answer) net log () after)
    (interference : Network.Interference others) :
    SentBack others E net message.route (some answer) log after := by
  unfold Chain.returnAnswer at performs
  cases way : message.route with
  | none =>
    rw [way] at performs
    obtain ⟨rfl, _, rfl⟩ := performs.of_done
    exact .unrouted
  | some route =>
    obtain ⟨S, D⟩ := route
    simp only [way] at performs
    -- First the sender is looked for, then the one who was to answer, and then the answer is sent
    obtain ⟨_, _, requester, found, rfl, looks, performs⟩ := performs.of_bind
    obtain ⟨rfl, looked⟩ := looks.of_ask
    obtain ⟨acts, seen⟩ := looked.look
    obtain rfl : requester = (found.living? S).map Endpoint.info := seen
    rw [Option.isSome_map] at performs
    cases living : found.living? S with
    | none =>
      rw [living] at performs
      obtain ⟨rfl, _, rfl⟩ := performs.of_done
      exact .gone acts living
    | some endpoint =>
      rw [living] at performs
      obtain ⟨_, _, responder, again, rfl, looksAgain, performs⟩ := performs.of_bind
      obtain ⟨_, _, delivery, landed, rfl, sends, ends⟩ := performs.of_bind
      obtain ⟨rfl, lookedAgain⟩ := looksAgain.of_ask
      obtain ⟨acts', seen'⟩ := lookedAgain.look
      obtain rfl : responder = (again.living? D).map Endpoint.info := seen'
      obtain ⟨rfl, sent⟩ := sends.of_ask
      obtain ⟨rfl, _, rfl⟩ := ends.of_done
      have known : ∃ endpoint, found.endpoint? S = some endpoint :=
        ⟨endpoint, endpoint?_of_living living⟩
      have lands := sent.lands interference ((interference.ages acts').exists_endpoint known)
      exact .sent acts (by rw [living]; rfl) acts' (by rw [Option.isSome_map]) lands

theorem SentBack.of_returnHandled {handled : Handled σ}
    (performs : Performs others (Chain.returnHandled E handled) net log () after)
    (interference : Network.Interference others) :
    SentBack others E net handled.message.route handled.answer log after := by
  unfold Chain.returnHandled at performs
  cases answers : handled.answer with
  | none =>
    rw [answers] at performs
    obtain ⟨rfl, _, rfl⟩ := performs.of_done
    exact .silent
  | some answer =>
    rw [answers] at performs
    exact .of_returnAnswer performs interference

theorem Turns.of_performs {offered : Chain.Offered σ}
    (performs : Performs others (Chain.offerEntries B E bound entries message changes) net log
      offered after) (interference : Network.Interference others) :
    Turns B others Message.route E bound entries message changes net log after := by
  induction entries generalizing message changes net log offered with
  | nil =>
    obtain ⟨rfl, _, rfl⟩ := performs.of_done
    exact .nil
  | cons entry rest ih =>
    unfold Chain.offerEntries at performs
    split at performs
    case isFalse disabled =>
      obtain ⟨log, _, _, _, rfl, passes, ends⟩ := performs.of_bind
      obtain ⟨rfl, _, rfl⟩ := ends.of_done
      rw [List.append_nil]
      exact .skip (Bool.eq_false_iff.mpr disabled) (ih passes)
    case isTrue enabled =>
      -- The callback, the return of its answer, and the rest of the pass
      obtain ⟨requests, _, ⟨handled, changes'⟩, returned, rfl, calls, performs⟩ := performs.of_bind
      obtain ⟨answering, _, _, answered, rfl, answers, performs⟩ := performs.of_bind
      obtain ⟨later, _, _, _, rfl, passes, ends⟩ := performs.of_bind
      obtain ⟨rfl, _, rfl⟩ := ends.of_done
      rw [List.append_nil, ← List.append_assoc]
      exact .call enabled calls (.of_returnHandled answers interference) (ih passes)

/-- As long as the handlers leave the route, it is the one with which the message came. -/
theorem Turns.of_keepRoutes
    (turns : Turns B others Message.route E bound entries message changes net log after)
    (keep : KeepRoutes B others E bound entries) {route : Option Route}
    (came : message.route = route) :
    Turns B others (fun _ => route) E bound entries message changes net log after := by
  induction turns with
  | nil => exact .nil
  | skip disabled _ ih =>
    exact .skip disabled (ih (fun entry later => keep entry (List.mem_cons_of_mem _ later)) came)
  | call enabled calls back _ ih =>
    have left := (keep _ List.mem_cons_self _ _ _ _ _ _ _ calls).trans came
    rw [left] at back
    exact .call enabled calls back
      (ih (fun entry later => keep entry (List.mem_cons_of_mem _ later)) left)

theorem Returned.of_performs {chain : Chain σ} {offered : Nat × Chain σ}
    (performs : Performs others (chain.offer B E message) net log offered after)
    (interference : Network.Interference others) :
    Returned B others E chain message net log after := by
  obtain ⟨log, _, _, _, rfl, passes, ends⟩ := performs.of_bind
  obtain ⟨rfl, _, rfl⟩ := ends.of_done
  rw [List.append_nil]
  have turns : Turns B others Message.route E chain.bound chain.entries message [] net log after :=
    .of_performs passes interference
  exact ⟨turns, fun keep _ _ came => turns.of_keepRoutes keep came⟩

end Returning

/-- In every run, every message in the queue of an endpoint was sent to it, and carries the route of
that send. Whenever a message is dispatched there, whatever others do in between, the enabled
handlers are called in order, and the answer of each is sent as soon as it is returned: along the
reverse of the message's route, if the one that sent the message still exists. It is appended to the
queue there, or, if that endpoint was tearing down or had lost its mailbox, dropped and counted so.
When the dispatch is at one go, nothing else is done to the network. -/
theorem answers_return {start world : World ω σ} {trace : List Occurrence} {e : EndpointId}
    (fresh : start.Fresh e) (run : World.Run B start trace world) :
    (∀ message ∈ world.network.queueAt e, ∃ thread, ∃ transfer : Transfer,
      .sent thread e message ∈ trace ∧ transfer.destination = e ∧ transfer.routed = message) ∧
    (∀ (others : Network ω → Network ω → Prop) (chain : Chain σ) (message : Message)
      (net : Network ω) (log : List (BusRequest ω)) (offered : Nat × Chain σ) (after : Network ω),
      Network.Interference others →
      Performs others (chain.offer B e message) net log offered after →
      Returned B others e chain message net log after) ∧
    ∀ (site : Site ω σ) (message : Message), site.own = e → site.isTearingDown = false →
      ∃ log after, Returned B Eq e site.mailbox.chain message site.network log after ∧
        (site.dispatch B message).2.network = after.recordDispatched e := by
  refine ⟨fun message queued => run.exists_sent fresh queued,
    fun _ _ _ _ _ _ _ interference performs => .of_performs performs interference, ?_⟩
  intro site message own up
  obtain ⟨log, performs⟩ := performs_run (site.pass B message) site.network
  rw [Site.pass, own] at performs
  refine ⟨log, _, .of_performs performs Network.interference_eq, ?_⟩
  rw [Site.dispatch, if_neg (by rw [up]; exact Bool.false_ne_true), ← own]
  rfl

/-- A handler with the same answer to everything. -/
def echoing : Behaviour Unit Unit :=
  .handling (fun _ => "echo") fun _ handler message =>
    .done ⟨handler, message, some (.ofPayload (.event "seen"))⟩

theorem keepRoutes_echoing {others : Network Unit → Network Unit → Prop} {E : EndpointId}
    {bound : Bool} {entries : List (Entry Unit)} : KeepRoutes echoing others E bound entries := by
  intro entry _ message changes changes' net returned requests handled calls
  obtain ⟨_, same, _⟩ := calls.of_done
  rw [(Prod.mk.inj same).1]

/-- Two endpoints with one handler each, and between them another one that is about to ask. -/
def asked : World Unit Unit where
  network := { endpoints := [{ name := "single" }, { name := "asker" }, { name := "other" }] }
  owners _ := { chain := (({} : Chain Unit).register ()).2 }
  transfers _ := none

/-- The second endpoint has sent an exit message to the first. -/
def askedOnce : World Unit Unit :=
  asked.withNetwork (asked.network.send (.ofPayload .exit) ⟨1⟩ ⟨0⟩).2

theorem run_asked (B : Behaviour Unit Unit) : ∃ trace, World.Run B asked trace askedOnce := by
  have sends : asked.Sends (.other 0) World.singleExit := .inl ⟨rfl, nofun⟩
  exact ⟨_, World.Run.nil.send sends⟩

/-- It is answered by an event. -/
theorem answers_return_asked :
    ∃ trace, World.Run echoing asked trace askedOnce ∧
      World.singleExit.routed ∈ askedOnce.network.queueAt ⟨0⟩ ∧
      ∃ log after,
        Turns echoing Eq (fun _ => some ⟨⟨1⟩, ⟨0⟩⟩) ⟨0⟩ false [⟨⟨1⟩, true, ()⟩]
          World.singleExit.routed [] askedOnce.network log after ∧
        after.queueAt ⟨1⟩ = [(Message.ofPayload (.event "seen")).routed ⟨0⟩ ⟨1⟩] := by
  have fresh : asked.Fresh ⟨0⟩ := ⟨⟨{ name := "single" }, rfl, rfl⟩, rfl, nofun⟩
  obtain ⟨trace, run⟩ := run_asked echoing
  have queued : World.singleExit.routed ∈ askedOnce.network.queueAt ⟨0⟩ :=
    List.mem_singleton_self _
  obtain ⟨_, _, atOneGo⟩ := answers_return fresh run
  obtain ⟨log, after, back, dispatched⟩ :=
    atOneGo (askedOnce.site ⟨0⟩) World.singleExit.routed rfl rfl
  refine ⟨trace, run, queued, log, after, back.kept keepRoutes_echoing _ _ rfl, ?_⟩
  rw [← Network.queueAt_recordDispatched after ⟨0⟩ ⟨1⟩, ← dispatched]
  rfl

/-- A handler that answers after it has put another message in the place of the one that came. -/
def replacing : Behaviour Unit Unit :=
  .handling (fun _ => "replace") fun _ handler _ =>
    .done ⟨handler, .ofPayload (.event "x"), some (.ofPayload (.event "seen"))⟩

/-- An answer can miss its way although the endpoint that asked accepts messages. With another
message in the place of the one that came, it is not sent at all; and if the message is handed on to
be dispatched at another endpoint, it is not that endpoint which it comes from. -/
theorem answers_return_astray :
    (∃ trace, World.Run replacing asked trace askedOnce) ∧
      World.singleExit.routed ∈ askedOnce.network.queueAt ⟨0⟩ ∧
      askedOnce.network.Accepts ⟨1⟩ ∧
      ((askedOnce.site ⟨0⟩).dispatch replacing World.singleExit.routed).1 = .handled 1 true ∧
      ((askedOnce.site ⟨0⟩).dispatch replacing World.singleExit.routed).2.network =
        askedOnce.network.recordDispatched ⟨0⟩ ∧
      ∃ taken, (askedOnce.site ⟨0⟩).take = some (World.singleExit.routed, taken) ∧
        (((askedOnce.withNetwork taken.network).site ⟨2⟩).dispatch echoing
          World.singleExit.routed).2.network.queueAt ⟨1⟩ =
            [(Message.ofPayload (.event "seen")).routed ⟨0⟩ ⟨1⟩] := by
  have accepts : askedOnce.network.Accepts ⟨1⟩ := ⟨{ name := "asker" }, rfl, rfl, rfl⟩
  exact ⟨run_asked replacing, List.mem_singleton_self _, accepts, rfl, rfl, _, rfl, rfl⟩

end AgentBus
