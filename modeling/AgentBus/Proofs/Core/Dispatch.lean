import AgentBus.Core.Handlers
import AgentBus.Mailbox.Basic
import AgentBus.Proofs.Bus.Network
import AgentBus.Proofs.Handler.Calls

/-!
# What the core does with a message

The core's chain is its three handlers, in order. `dispatch_core` says what one dispatch does: it
makes the sends that `responses` lists for the message, and leaves the chain as it is. Nobody has
to look into the handlers after that.
-/

namespace AgentBus

open CoreHandler

variable {ω : Type}

/-! ## Programs of handlers -/

/-- A callback that asks for no changes of its chain is a program for the bus. -/
theorem collect_left {α : Type} (program : BusProgram ω α) (changes : List ChainChange) :
    collect program.left changes = program.bind fun result => .done (result, changes) := by
  have alone : collect (program.left.bind .done) changes = collect program.left changes :=
    congrArg (collect · changes) (Program.bind_done program.left)
  exact alone.symm.trans (collect_left_bind program .done changes)

/-- A pass over the core's handlers: the first one does its work, its answer is returned, and the
others follow. -/
theorem run_offerEntries_cons {own : EndpointId} (entry : Entry CoreHandler)
    {rest : List (Entry CoreHandler)} {bound : Bool} {changes : List ChainChange}
    {message message' : Message} {answer : Option Message} {others : Chain.Offered CoreHandler}
    {net handledNet returnedNet after : Network ω} (enabled : entry.enabled = true)
    (handled : (handle (Chain.scope own bound entry) entry.handler message).run Network.perform
      net = (⟨entry.handler, message', answer⟩, handledNet))
    (returned : (Chain.returnHandled own ⟨entry.handler, message', answer⟩).run Network.perform
      handledNet = ((), returnedNet))
    (followed : (Chain.offerEntries behaviour own bound rest message' changes).run Network.perform
      returnedNet = (others, after)) :
    (Chain.offerEntries behaviour own bound (entry :: rest) message changes).run
        Network.perform net =
      (⟨entry :: others.entries, others.changes, others.called + 1⟩, after) := by
  rw [Chain.offerEntries, if_pos enabled]
  simp only [behaviour, Behaviour.handling, collect_left, Program.run_bind, Program.run, handled,
    returned] at followed ⊢
  rw [followed]

/-! ## Each handler -/

/-- On whose behalf the ingress sends a command. -/
def Network.requesterOf (net : Network ω) (own : EndpointId) : Option Route → EndpointId
  | none => own
  | some route => if (net.living? route.source).isSome then route.source else own

def commandOf (limits : Limits) (line : TextPayload) : Except Rejection Command :=
  Command.ofText (Text.trimEnd line.text) line.source limits

def ingressSends (net : Network ω) (own : EndpointId) (message : Message) : List Transfer :=
  match message.payload with
  | .recvText line =>
    match commandOf net.context.limits line with
    | .error _ => []
    | .ok command =>
      [⟨.ofPayload (.sendCommand command), net.requesterOf own message.route, own⟩]
  | _ => []

def routerSends (context : Context) (own : EndpointId) : Payload → List Transfer
  | .event text =>
    context.directory.channels.map fun channel => ⟨.ofPayload (.event text), own, channel.2⟩
  | .sendText payload =>
    match channelFor? context payload with
    | none => []
    | some endpoint => [⟨.ofPayload (.transportText payload), own, endpoint⟩]
  | _ => []

def answerSends (net : Network ω) (own : EndpointId) (route : Option Route) (answer : Message) :
    List Transfer :=
  match route with
  | none => []
  | some route =>
    if (net.living? route.source).isSome then
      [⟨answer, if (net.living? route.destination).isSome then route.destination else own,
        route.source⟩]
    else []

section Handlers

variable {scope : Scope} (bound : scope.bound = true)

include bound in
theorem run_context? (net : Network ω) :
    (context? scope).run Network.perform net = (some net.context, net) := by
  rw [context?, if_pos bound]
  rfl

theorem run_requester (scope : Scope) (message : Message) (net : Network ω) :
    (requester scope message).run Network.perform net =
      (net.requesterOf scope.endpoint message.route, net) := by
  unfold requester Network.requesterOf
  cases message.route with
  | none => rfl
  | some route =>
    simp only [Program.run_bind, BusProgram.look, Program.run, Network.perform, Option.isSome_map]

include bound in
theorem run_ingress (message : Message) (net : Network ω) :
    (handle scope .ingress message).run Network.perform net =
      (⟨.ingress, message, none⟩, net.sendAll (ingressSends net scope.endpoint message)) := by
  unfold handle ingressSends
  cases message.payload with
  | recvText line =>
    simp only [receive, Program.run_bind, run_context? bound, Option.map_some, Option.getD_some,
      commandOf]
    cases Command.ofText (Text.trimEnd line.text) line.source net.context.limits with
    | error rejection => rfl
    | ok command =>
      simp only [Program.run_bind, run_requester]
      rfl
  | _ => rfl

/-- The network after a command was executed: one operation asks for a shutdown. -/
def prompted (net : Network ω) (command : Command) : Network ω :=
  if Operation.ofName? command.operation = some .quit then
    { net with context := net.context.apply .requestShutdown }
  else net

def executed (context : Context) (command : Command) : Command :=
  command.execute (Survey.ofContext context)

include bound in
theorem run_operations (command : Command) (route : Option Route) (net : Network ω) :
    (handle scope .operations ⟨.sendCommand command, route⟩).run Network.perform net =
      (⟨.operations, ⟨.sendCommand (executed net.context command).withoutAnswer, route⟩,
        some (.ofPayload (.sendText (answerText (executed net.context command))))⟩,
        prompted net command) := by
  simp only [handle, execute, Program.run_bind, run_context? bound, quit, prompted, bound,
    and_true]
  split
  · rfl
  · rfl

theorem run_operations_of_ne {payload : Payload}
    (noCommand : ∀ command, payload ≠ .sendCommand command) (scope : Scope)
    (route : Option Route) (net : Network ω) :
    (handle scope .operations ⟨payload, route⟩).run Network.perform net =
      (⟨.operations, ⟨payload, route⟩, none⟩, net) := by
  cases payload with
  | sendCommand command => exact absurd rfl (noCommand command)
  | _ => rfl

theorem run_fanOut (own : EndpointId) (text : String) (channels : NameTable EndpointId)
    (net : Network ω) :
    (fanOut own text channels).run Network.perform net =
      ((),
        net.sendAll (channels.map fun channel => ⟨.ofPayload (.event text), own, channel.2⟩)) := by
  induction channels generalizing net with
  | nil => rfl
  | cons channel channels ih =>
    rw [fanOut, Program.run_bind, ih]
    rfl

include bound in
theorem run_router (message : Message) (net : Network ω) :
    (handle scope .router message).run Network.perform net =
      (⟨.router, message, none⟩,
        net.sendAll (routerSends net.context scope.endpoint message.payload)) := by
  have routed : ∀ payload, (route scope.endpoint net.context payload).run Network.perform net =
      ((), net.sendAll (routerSends net.context scope.endpoint payload)) := by
    intro payload
    cases payload with
    | event text => exact run_fanOut _ _ _ _
    | sendText payload =>
      simp only [route, routerSends]
      cases channelFor? net.context payload with
      | none => rfl
      | some endpoint => rfl
    | _ => rfl
  simp only [handle, Program.run_bind, run_context? bound, routed]
  rfl

end Handlers

theorem run_returnAnswer (own : EndpointId) (message answer : Message) (net : Network ω) :
    (Chain.returnAnswer own message answer).run Network.perform net =
      ((), net.sendAll (answerSends net own message.route answer)) := by
  unfold Chain.returnAnswer answerSends
  cases message.route with
  | none => rfl
  | some route =>
    simp only [Program.run_bind, BusProgram.look, Program.run, Network.perform, Option.isSome_map]
    split
    · simp only [Program.run_bind, Program.run, Network.perform, Option.isSome_map]
      rfl
    · rfl

/-! ## All handlers -/

/-- What the core sends when it dispatches a message, in order. -/
def responses (net : Network ω) (own : EndpointId) (message : Message) : List Transfer :=
  match message.payload with
  | .recvText _ => ingressSends net own message
  | .sendCommand command =>
    answerSends net own message.route
      (.ofPayload (.sendText (answerText (executed net.context command))))
  | payload => routerSends net.context own payload

/-- The network on which the core makes its sends for a message. -/
def promptedBy (net : Network ω) : Payload → Network ω
  | .sendCommand command => prompted net command
  | _ => net

/-- A requested shutdown changes nothing for answers. -/
theorem answerSends_prompted (net : Network ω) (command : Command) (own : EndpointId)
    (route : Option Route) (answer : Message) :
    answerSends (prompted net command) own route answer = answerSends net own route answer := by
  unfold prompted
  split
  · rfl
  · rfl

/-- A core with its three handlers, all enabled and with the shared context, that accepts
messages. -/
structure CoreReady (site : Site ω CoreHandler) : Prop where
  handlers : site.mailbox.chain.entries.map (fun entry => (entry.handler, entry.enabled)) =
    [(.ingress, true), (.operations, true), (.router, true)]
  bound : site.mailbox.chain.bound = true
  accepts : site.network.Accepts site.own

/-- A pass over the three handlers, in terms of what the operations do. -/
theorem run_offer_of_operations {chain : Chain CoreHandler}
    (handlers : chain.entries.map (fun entry => (entry.handler, entry.enabled)) =
      [(.ingress, true), (.operations, true), (.router, true)])
    (bound : chain.bound = true) {own : EndpointId} {message message' : Message}
    {answer : Option Message} {net handledNet returnedNet : Network ω}
    (handled : ∀ id, (handle ⟨id, own, true⟩ .operations message).run Network.perform
      (net.sendAll (ingressSends net own message)) = (⟨.operations, message', answer⟩, handledNet))
    (returned : (Chain.returnHandled own ⟨CoreHandler.operations, message', answer⟩).run
      Network.perform handledNet = ((), returnedNet)) :
    (chain.offer behaviour own message).run Network.perform net =
      ((3, chain), returnedNet.sendAll (routerSends returnedNet.context own message'.payload)) := by
  obtain ⟨entries, isBound, nextId⟩ := chain
  obtain rfl : isBound = true := bound
  obtain ⟨⟨ingress, _, _⟩, _, rfl, isIngress, handlers⟩ := List.map_eq_cons_iff.mp handlers
  obtain ⟨⟨operations, _, _⟩, _, rfl, isOperations, handlers⟩ := List.map_eq_cons_iff.mp handlers
  obtain ⟨⟨router, _, _⟩, _, rfl, isRouter, handlers⟩ := List.map_eq_cons_iff.mp handlers
  obtain rfl := List.map_eq_nil_iff.mp handlers
  obtain ⟨rfl, rfl⟩ := Prod.mk.inj isIngress
  obtain ⟨rfl, rfl⟩ := Prod.mk.inj isOperations
  obtain ⟨rfl, rfl⟩ := Prod.mk.inj isRouter
  -- The pass is put together from its end: each handler is followed by a pass over the later ones
  have ended : (Chain.offerEntries behaviour own true [] message' []).run Network.perform
      (returnedNet.sendAll (routerSends returnedNet.context own message'.payload)) =
        (⟨[], [], 0⟩, _) := rfl
  have routed := run_offerEntries_cons ⟨router, true, .router⟩ rfl
    (run_router rfl message' returnedNet) rfl ended
  have operated := run_offerEntries_cons ⟨operations, true, .operations⟩ rfl (handled operations)
    returned routed
  have passed := run_offerEntries_cons ⟨ingress, true, .ingress⟩ rfl
    (run_ingress rfl message net) rfl operated
  simp only [Chain.offer, Program.run_bind]
  rw [passed]
  rfl

theorem run_offer_core {chain : Chain CoreHandler}
    (handlers : chain.entries.map (fun entry => (entry.handler, entry.enabled)) =
      [(.ingress, true), (.operations, true), (.router, true)])
    (bound : chain.bound = true) (own : EndpointId) (message : Message) (net : Network ω) :
    (chain.offer behaviour own message).run Network.perform net =
      ((3, chain), (promptedBy net message.payload).sendAll (responses net own message)) := by
  obtain ⟨payload, route⟩ := message
  -- The operations answer a command, and leave anything else to the other two
  have silent (noCommand : ∀ command, payload ≠ .sendCommand command) :=
    run_offer_of_operations handlers bound
      (fun id => run_operations_of_ne noCommand ⟨id, own, true⟩ route
        (net.sendAll (ingressSends net own ⟨payload, route⟩))) rfl
  cases payload with
  | sendCommand command =>
    have returned := run_returnAnswer own
      ⟨.sendCommand (executed net.context command).withoutAnswer, route⟩
      (.ofPayload (.sendText (answerText (executed net.context command)))) (prompted net command)
    rw [run_offer_of_operations handlers bound
      (fun id => run_operations rfl command route net) returned, answerSends_prompted]
    rfl
  | recvText _ | sendText _ | event _ | exit | transportText _ => exact silent (by simp)

/-! ## One dispatch -/

/-- A dispatch makes the sends for its message, and leaves the handlers as they are. -/
theorem dispatch_core {site : Site ω CoreHandler} (ready : CoreReady site) (message : Message) :
    (site.dispatch behaviour message).2 =
      site.withNetwork
        (((promptedBy site.network message.payload).sendAll
          (responses site.network site.own message)).recordDispatched site.own) := by
  have up : site.isTearingDown = false := ready.accepts.not_isTearingDown
  have offered := run_offer_core ready.handlers ready.bound site.own message site.network
  unfold Site.dispatch
  rw [if_neg (by simp [up])]
  simp only [Site.perform, Site.pass, offered]
  rfl

/-- The core may ask for a shutdown, and that is all. -/
theorem promptedBy_cases (net : Network ω) (payload : Payload) :
    promptedBy net payload = net ∨
      promptedBy net payload = { net with context := net.context.apply .requestShutdown } := by
  cases payload with
  | sendCommand command =>
    simp only [promptedBy, prompted]
    split
    · exact .inr rfl
    · exact .inl rfl
  | _ => exact .inl rfl

theorem endpoint?_promptedBy (net : Network ω) (payload : Payload) (e : EndpointId) :
    (promptedBy net payload).endpoint? e = net.endpoint? e := by
  obtain same | same := promptedBy_cases net payload
  · rw [same]
  · rw [same]
    rfl

theorem Network.Accepts.promptedBy {net : Network ω} {e : EndpointId} (accepts : net.Accepts e)
    (payload : Payload) : (promptedBy net payload).Accepts e := by
  rw [Network.Accepts, endpoint?_promptedBy]
  exact accepts

theorem limits_promptedBy (net : Network ω) (payload : Payload) :
    (promptedBy net payload).context.limits = net.context.limits := by
  obtain same | same := promptedBy_cases net payload
  · rw [same]
  · rw [same]
    rfl

section Seen

variable {site : Site ω CoreHandler} {e : EndpointId} (ready : CoreReady site) (message : Message)

include ready

/-- The queue of an endpoint that accepts messages grows by the sends to it. -/
theorem queueAt_dispatch (accepts : site.network.Accepts e) :
    (site.dispatch behaviour message).2.network.queueAt e =
      site.network.queueAt e ++
        (responses site.network site.own message).filterMap (Transfer.toward e) := by
  have stillAccepts := accepts.promptedBy message.payload
  have same : (promptedBy site.network message.payload).queueAt e = site.network.queueAt e := by
    rw [Network.queueAt, endpoint?_promptedBy, ← Network.queueAt]
  rw [dispatch_core ready, ← same, ← Network.queueAt_sendAll stillAccepts]
  exact Network.queueAt_recordDispatched _ _ _

theorem accepts_dispatch (accepts : site.network.Accepts e) :
    (site.dispatch behaviour message).2.network.Accepts e := by
  rw [dispatch_core ready]
  exact ((accepts.promptedBy _).sendAll _).recordDispatched _

theorem limits_dispatch :
    (site.dispatch behaviour message).2.network.context.limits = site.network.context.limits := by
  have context := Network.context_sendAll (promptedBy site.network message.payload)
    (responses site.network site.own message)
  rw [dispatch_core ready]
  exact (congrArg Context.limits context).trans (limits_promptedBy _ _)

theorem own_dispatch : (site.dispatch behaviour message).2.own = site.own := by
  rw [dispatch_core ready]
  rfl

theorem CoreReady.dispatch : CoreReady (site.dispatch behaviour message).2 := by
  have accepts := accepts_dispatch ready message ready.accepts
  rw [dispatch_core ready] at accepts ⊢
  exact ⟨ready.handlers, ready.bound, accepts⟩

end Seen

end AgentBus
