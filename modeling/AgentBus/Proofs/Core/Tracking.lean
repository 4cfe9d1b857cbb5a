import AgentBus.Proofs.Bus.Arrivals
import AgentBus.Proofs.Core.Pumping

/-!
# What comes of one message

To tell which traffic of the core is that of one message, the messages in its queue are marked: this
one is, and so is what the core sends to itself while it dispatches a message with a mark
(`Tracked`). In terms of the marked messages alone, each turn takes the oldest one and puts the
core's own sends for it behind the others, until none is left (`Settles`).

Main statements: `Tracked.settles`, by which the marked messages are settled like that whatever else
goes on, and `Tracked.of_pump`, by which a pump is a run of this kind.
-/

namespace AgentBus

open CoreHandler

variable {ω : Type}

/-! ## Turns of marked messages -/

/-- A dispatch of the core: the message, and the network before and after it. -/
structure CoreTurn (ω : Type) where
  message : Message
  before : Network ω
  after : Network ω

/-- A message in the core's queue, and whether it is marked. -/
abbrev MarkedMessage : Type := Message × Bool

/-- The messages with a mark. -/
def marked (queue : List MarkedMessage) : List Message :=
  (queue.filter Prod.snd).map Prod.fst

/-- A core at work, from a queue in which some messages are marked: the queue that it has come to,
and the turns of the marked messages so far. Others act between two dispatches. -/
inductive Tracked (start : Site ω CoreHandler) (queue₀ : List MarkedMessage) :
    Site ω CoreHandler → List MarkedMessage → List (CoreTurn ω) → Prop where
  | start : Tracked start queue₀ start queue₀ []
  /-- What the core sends to itself while it dispatches a message is marked as the message is. -/
  | dispatch {site taken after : Site ω CoreHandler} {message : Message} {mark : Bool}
      {rest : List MarkedMessage} {sent : List Message} {turns : List (CoreTurn ω)} :
      Tracked start queue₀ site ((message, mark) :: rest) turns →
      site.take = some (message, taken) → (taken.dispatch behaviour message).2 = after →
      after.network.queueAt site.own = taken.network.queueAt site.own ++ sent →
      Tracked start queue₀ after (rest ++ sent.map fun message => (message, mark))
        (turns ++ if mark then [⟨message, taken.network, after.network⟩] else [])
  | others {site : Site ω CoreHandler} {queue : List MarkedMessage} {more : List Message}
      {turns : List (CoreTurn ω)} {net : Network ω} : Tracked start queue₀ site queue turns →
      net.queueAt site.own = site.network.queueAt site.own ++ more →
      net.context.limits = site.network.context.limits →
      Tracked start queue₀ (site.withNetwork net)
        (queue ++ more.map fun message => (message, false))
        turns

/-- The network after a turn has come about by the core's sends for its message. -/
structure CoreTurn.Made (own : EndpointId) (limits : Limits) (turn : CoreTurn ω) : Prop where
  accepts : turn.before.Accepts own
  limits : turn.before.context.limits = limits
  after : turn.after = ((promptedBy turn.before turn.message.payload).sendAll
    (responses turn.before own turn.message)).recordDispatched own

/-- Messages are dispatched in turn, with what the core sends to itself behind those that wait,
until none is left. -/
inductive Settles (own : EndpointId) (limits : Limits) :
    List Message → List (CoreTurn ω) → Prop where
  | nil : Settles own limits [] []
  | cons {turn : CoreTurn ω} {waiting : List Message} {turns : List (CoreTurn ω)} :
      turn.Made own limits →
      Settles own limits
        (waiting ++ (responses turn.before own turn.message).filterMap (Transfer.toward own))
        turns →
      Settles own limits (turn.message :: waiting) (turn :: turns)

/-! ### Marks -/

theorem marked_append (queue others : List MarkedMessage) :
    marked (queue ++ others) = marked queue ++ marked others := by
  simp [marked]

theorem marked_cons (message : Message) (queue : List MarkedMessage) :
    marked ((message, true) :: queue) = message :: marked queue := rfl

theorem marked_map (messages : List Message) (mark : Bool) :
    marked (messages.map fun message => (message, mark)) = if mark then messages else [] := by
  induction messages with
  | nil => cases mark <;> rfl
  | cons message messages ih => cases mark <;> simp_all [marked]

theorem map_fst_mark (messages : List Message) (mark : Bool) :
    (messages.map fun message => (message, mark)).map Prod.fst = messages := by
  simp [Function.comp_def]

/-- A queue in which one message is marked. -/
def onlyMarked (ahead : List Message) (message : Message) (behind : List Message) :
    List MarkedMessage :=
  ahead.map (fun message => (message, false)) ++
    (message, true) :: behind.map fun message => (message, false)

theorem marked_onlyMarked (ahead : List Message) (message : Message) (behind : List Message) :
    marked (onlyMarked ahead message behind) = [message] := by
  rw [onlyMarked, marked_append, marked_cons, marked_map, marked_map]
  rfl

theorem map_fst_onlyMarked (ahead : List Message) (message : Message) (behind : List Message) :
    (onlyMarked ahead message behind).map Prod.fst = ahead ++ message :: behind := by
  rw [onlyMarked, List.map_append, List.map_cons, map_fst_mark, map_fst_mark]

/-! ### Networks of a core -/

section Networks

variable {site : Site ω CoreHandler}

theorem Network.limits_perform (request : BusRequest ω) (net : Network ω) :
    (Network.perform request net).2.context.limits = net.context.limits := by
  cases request with
  | send message source destination =>
    exact congrArg Context.limits (context_send net message source destination)
  | change change => cases change <;> rfl
  | look | tearDown | context | emit => rfl

/-- Whatever the handlers do, the limits stay. -/
theorem Site.limits_dispatch {σ : Type} (B : Behaviour ω σ) (site : Site ω σ) (message : Message) :
    (site.dispatch B message).2.network.context.limits = site.network.context.limits := by
  unfold Site.dispatch
  split
  · rfl
  · refine (site.pass B message).run_preserves
      (P := fun net => net.context.limits = site.network.context.limits) ?_ site.network rfl
    exact fun request net same => (Network.limits_perform request net).trans same

/-- Whether an endpoint has its mailbox, and whether it is tearing down. -/
def Endpoint.state (endpoint : Endpoint) : Bool × Bool :=
  (endpoint.served, endpoint.tearingDown)

/-- What a core leaves as it is while it is pumped: who is bound to the channels, who is alive, and
who accepts messages. -/
structure Network.Steady (net after : Network ω) : Prop where
  directory : after.context.directory = net.context.directory
  handles : after.handles = net.handles
  states : ∀ e, (after.endpoint? e).map Endpoint.state = (net.endpoint? e).map Endpoint.state

namespace Network.Steady

variable {net between after : Network ω} {e : EndpointId}

theorem refl (net : Network ω) : net.Steady net :=
  ⟨rfl, rfl, fun _ => rfl⟩

theorem trans (first : net.Steady between) (second : between.Steady after) : net.Steady after where
  directory := second.directory.trans first.directory
  handles := second.handles.trans first.handles
  states := fun e => (second.states e).trans (first.states e)

theorem update (net : Network ω) (id : EndpointId) {f : Endpoint → Endpoint}
    (same : ∀ endpoint, (f endpoint).state = endpoint.state) : net.Steady (net.update id f) where
  directory := rfl
  handles := rfl
  states := by
    intro e
    rw [endpoint?_update]
    split
    · rw [Option.map_map]
      exact congrArg (Option.map · _) (funext same)
    · rfl

theorem sendAll (net : Network ω) (transfers : List Transfer) :
    net.Steady (net.sendAll transfers) := by
  have receive (endpoint : Endpoint) (message : Message) :
      (endpoint.receive message).state = endpoint.state := by
    unfold Endpoint.receive
    split <;> rfl
  induction transfers generalizing net with
  | nil => exact refl net
  | cons transfer transfers ih =>
    rw [Network.sendAll, List.foldl_cons, ← Network.sendAll]
    refine trans ?_ (ih _)
    rw [send_eq]
    exact update net _ fun endpoint => receive endpoint _

theorem promptedBy (net : Network ω) (payload : Payload) :
    net.Steady (promptedBy net payload) := by
  unfold AgentBus.promptedBy prompted
  split
  · split
    · exact ⟨rfl, rfl, fun _ => rfl⟩
    · exact refl net
  · exact refl net

theorem accepts (steady : net.Steady after) (accepts : net.Accepts e) : after.Accepts e := by
  obtain ⟨record, found, served, up⟩ := accepts
  have state := steady.states e
  rw [found] at state
  obtain ⟨record', found', same⟩ := Option.map_eq_some_iff.mp state
  obtain ⟨served', up'⟩ := Prod.mk.inj same
  exact ⟨record', found', served'.trans served, up'.trans up⟩

/-- Who is gone stays so. -/
theorem gone (steady : net.Steady after) (gone : net.living? e = none) :
    after.living? e = none := by
  have any (net : Network ω) : (net.endpoint? e).any (·.served) =
      ((net.endpoint? e).map Endpoint.state).any Prod.fst := by
    cases net.endpoint? e <;> rfl
  have alive : after.isAlive e = net.isAlive e := by
    rw [isAlive, isAlive, any, any, steady.states, steady.handles, steady.directory]
  unfold living? at gone ⊢
  rw [alive]
  split
  · next living =>
    rw [if_pos living] at gone
    have state := steady.states e
    rw [gone] at state
    exact Option.map_eq_none_iff.mp state
  · rfl

end Network.Steady

theorem Site.steady_take {taken : Site ω CoreHandler} {message : Message}
    (took : site.take = some (message, taken)) : site.network.Steady taken.network := by
  obtain ⟨_, _, _, _, after⟩ := Network.take_eq_some (Site.take_eq_some took)
  rw [after]
  exact .update _ _ fun _ => rfl

theorem CoreReady.steady_dispatch (ready : CoreReady site) (message : Message) :
    site.network.Steady (site.dispatch behaviour message).2.network := by
  rw [dispatch_core ready]
  exact (Network.Steady.promptedBy _ _).trans ((Network.Steady.sendAll _ _).trans
    (.update _ _ fun _ => rfl))

end Networks

/-! ## Runs -/

theorem CoreReady.isCore {site : Site ω CoreHandler} (ready : CoreReady site) :
    site.mailbox.chain.IsCore where
  handlers := by
    have handlers := congrArg (List.map Prod.fst) ready.handlers
    rw [List.map_map] at handlers
    exact .of_eq handlers
  enabled := by
    intro entry member
    have among : (entry.handler, entry.enabled) ∈
        site.mailbox.chain.entries.map fun entry => (entry.handler, entry.enabled) :=
      List.mem_map_of_mem member
    rw [ready.handlers] at among
    simp only [List.mem_cons, Prod.mk.injEq, List.not_mem_nil, or_false] at among
    rcases among with ⟨_, enabled⟩ | ⟨_, enabled⟩ | ⟨_, enabled⟩ <;> exact enabled

namespace Tracked

variable {start site : Site ω CoreHandler} {queue₀ queue : List MarkedMessage}
variable {turns : List (CoreTurn ω)}

/-- The marks are those of the messages in the queue. -/
theorem keeps (tracked : Tracked start queue₀ site queue turns)
    (core : start.mailbox.chain.IsCore)
    (holds : start.network.queueAt start.own = queue₀.map Prod.fst) :
    site.mailbox = start.mailbox ∧ site.network.queueAt site.own = queue.map Prod.fst ∧
      site.network.context.limits = start.network.context.limits := by
  induction tracked with
  | start => exact ⟨rfl, holds, rfl⟩
  | @dispatch site taken after message mark rest sent turns tracked took dispatched grown ih =>
    obtain ⟨mailbox, queue, limits⟩ := ih
    obtain ⟨oldest, context, kept⟩ := Site.queueAt_take took
    subst dispatched
    have core' : taken.mailbox.chain.IsCore := by
      rw [kept, mailbox]
      exact core
    have kept' := (core'.dispatch message).1.trans kept
    have own : (taken.dispatch behaviour message).2.own = site.own :=
      congrArg Mailbox.endpoint kept'
    have others : taken.network.queueAt site.own = rest.map Prod.fst :=
      (List.cons.inj (oldest.symm.trans queue)).2
    refine ⟨kept'.trans mailbox, ?_, ?_⟩
    · rw [own, grown, others, List.map_append, map_fst_mark]
    · rw [Site.limits_dispatch, context, limits]
  | @others site queue more turns net tracked grown same ih =>
    obtain ⟨mailbox, queue, limits⟩ := ih
    refine ⟨mailbox, ?_, same.trans limits⟩
    refine grown.trans ?_
    rw [queue, List.map_append, map_fst_mark]

/-- The turns of the marked messages, put before those that settle what is still marked, settle what
was marked at the start. -/
theorem settles (tracked : Tracked start queue₀ site queue turns) (ready : CoreReady start)
    (holds : start.network.queueAt start.own = queue₀.map Prod.fst)
    (accepts : ∀ turn ∈ turns, turn.before.Accepts start.own) {later : List (CoreTurn ω)}
    (settles : Settles start.own start.network.context.limits (marked queue) later) :
    Settles start.own start.network.context.limits (marked queue₀) (turns ++ later) := by
  induction tracked generalizing later with
  | start => exact settles
  | @dispatch site taken after message mark rest sent turns tracked took dispatched grown ih =>
    obtain ⟨mailbox, queue, limits⟩ := tracked.keeps ready.isCore holds
    obtain ⟨oldest, context, kept⟩ := Site.queueAt_take took
    rw [marked_append, marked_map] at settles
    subst dispatched
    cases mark with
    | false =>
      simp only [Bool.false_eq_true, if_false, List.append_nil] at settles accepts ⊢
      exact ih accepts settles
    | true =>
      simp only [if_true] at settles accepts ⊢
      rw [List.append_assoc]
      refine ih (fun turn member => accepts turn (List.mem_append_left _ member)) ?_
      -- This turn is the first of those that settle what was marked before it
      have here := accepts _ (List.mem_append_right _ List.mem_cons_self)
      have own : taken.own = start.own := congrArg Mailbox.endpoint (kept.trans mailbox)
      have own' : site.own = start.own := congrArg Mailbox.endpoint mailbox
      have ready' : CoreReady taken := by
        refine ⟨?_, ?_, own ▸ here⟩
        · rw [kept, mailbox]
          exact ready.handlers
        · rw [kept, mailbox]
          exact ready.bound
      have sends : sent = (responses taken.network start.own message).filterMap
          (Transfer.toward start.own) := by
        have grown' := queueAt_dispatch ready' message ready'.accepts
        rw [own] at grown'
        rw [own'] at grown
        exact List.append_cancel_left (grown.symm.trans grown')
      rw [sends] at settles
      refine .cons ⟨here, (congrArg Context.limits context).trans limits, ?_⟩ settles
      change (taken.dispatch behaviour message).2.network = _
      rw [dispatch_core ready', own]
      rfl
  | @others site queue more turns net tracked grown same ih =>
    rw [marked_append, marked_map, if_neg Bool.false_ne_true, List.append_nil] at settles
    exact ih accepts settles

/-- A pump that ends is such a run. -/
theorem of_run {fuel taken : Nat} {how : LoopEnd} {after : Site ω CoreHandler}
    (tracked : Tracked start queue₀ site queue turns) (ready : CoreReady site)
    (holds : site.network.queueAt site.own = queue.map Prod.fst)
    (steady : start.network.Steady site.network)
    (turned : ∀ turn ∈ turns, start.network.Steady turn.before)
    (ended : Loop.run behaviour fuel ⟨.draining 1 0 taken, .free⟩ site = .ended how after) :
    ∃ queue' turns', Tracked start queue₀ after queue' turns' ∧
      after.network.queueAt site.own = [] ∧
      ∀ turn ∈ turns', start.network.Steady turn.before := by
  -- On the fuel: every dispatch leaves less of it
  induction fuel using Nat.strong_induction_on generalizing site queue turns taken with
  | h fuel ih =>
  cases took : site.take with
  | none =>
    have still := (Loop.run_ended_add ended 2).symm.trans (Loop.run_empty took fuel)
    obtain ⟨_, rfl⟩ := Loop.Pause.ended.inj still
    exact ⟨queue, turns, tracked, Site.queueAt_of_take_eq_none took, turned⟩
  | some oldest =>
    obtain ⟨message, rest⟩ := oldest
    obtain ⟨left, fewer, still⟩ := Loop.run_free_ended Nat.one_pos took ended
    obtain ⟨first, context, kept⟩ := Site.queueAt_take took
    have own : rest.own = site.own := congrArg Mailbox.endpoint kept
    obtain ⟨⟨message', mark⟩, others, rfl, same, waiting⟩ :=
      List.map_eq_cons_iff.mp (holds.symm.trans first)
    obtain rfl : message' = message := same
    have ready' : CoreReady rest :=
      ⟨kept ▸ ready.handlers, kept ▸ ready.bound, own ▸ ready.accepts.take (Site.take_eq_some took)⟩
    have own' : (rest.dispatch behaviour message').2.own = site.own :=
      (own_dispatch ready' message').trans own
    obtain ⟨sent, grown⟩ : ∃ sent, (rest.dispatch behaviour message').2.network.queueAt site.own =
        rest.network.queueAt site.own ++ sent :=
      ⟨_, own ▸ queueAt_dispatch ready' message' ready'.accepts⟩
    have next := tracked.dispatch took rfl grown
    have holds' : (rest.dispatch behaviour message').2.network.queueAt
        (rest.dispatch behaviour message').2.own =
          (others ++ sent.map fun message => (message, mark)).map Prod.fst := by
      rw [own', grown, List.map_append, map_fst_mark, waiting]
    have reached := steady.trans (Site.steady_take took)
    have now : ∀ turn ∈ (if mark then [CoreTurn.mk message' rest.network
        (rest.dispatch behaviour message').2.network] else []),
        start.network.Steady turn.before := by
      cases mark with
      | false => exact fun _ none => absurd none List.not_mem_nil
      | true => exact fun _ this => List.mem_singleton.mp this ▸ reached
    obtain ⟨queue', turns', tracked', empty, turned'⟩ := ih left fewer next
      (ready'.dispatch message') holds' (reached.trans (ready'.steady_dispatch message'))
      (List.forall_mem_append.mpr ⟨turned, now⟩) still
    rw [own'] at empty
    exact ⟨queue', turns', tracked', empty, turned'⟩

theorem of_pump {fuel : Nat} {how : LoopEnd} {after : Site ω CoreHandler}
    (ready : CoreReady start) (holds : start.network.queueAt start.own = queue₀.map Prod.fst)
    (ended : start.pump behaviour fuel = .ended how after) :
    ∃ queue turns, Tracked start queue₀ after queue turns ∧
      after.network.queueAt start.own = [] ∧
      ∀ turn ∈ turns, start.network.Steady turn.before := by
  have ran : Loop.run behaviour fuel ⟨.draining 1 0 0, .free⟩ start = .ended how after := ended
  exact of_run .start ready holds (.refl _) (fun _ none => absurd none List.not_mem_nil) ran

end Tracked

end AgentBus
