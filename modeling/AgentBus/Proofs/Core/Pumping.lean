import Mathlib.Algebra.Order.BigOperators.Group.List
import Mathlib.Algebra.Order.Ring.Nat
import AgentBus.Proofs.Bus.NameTable
import AgentBus.Proofs.Core.Answers
import AgentBus.Proofs.Mailbox.Dispatching

/-!
# Pumping the core

The core's handlers send to the queue that a pump empties: the ingress sends commands to the core
itself, and answers come back to it when it is the one who asked. Each message has a weight, and
what the handlers add to the queue for a message weighs less than the message, unless the router
finds a channel that is bound to the core. So a pump ends (`pump_core`); with such a channel each
event leads to another one, and it never does.

Only the kinds of the messages matter. `Feeds` is what a pass over some handlers adds to the queue;
the handlers may stand in any order, with or without the shared context.
-/

namespace AgentBus

open CoreHandler

variable {ω : Type}

/-! ## Weights -/

/-- How many dispatches a message leads to at most: a line becomes a command, and a command may be
answered to the core. -/
def MessageKind.weight : MessageKind → Nat
  | .recvText => 3
  | .sendCommand => 2
  | _ => 1

def weightOf (kinds : List MessageKind) : Nat :=
  (kinds.map MessageKind.weight).sum

theorem weightOf_append (kinds others : List MessageKind) :
    weightOf (kinds ++ others) = weightOf kinds + weightOf others := by
  simp [weightOf]

theorem weightOf_cons (kind : MessageKind) (kinds : List MessageKind) :
    weightOf (kind :: kinds) = kind.weight + weightOf kinds := by
  simp [weightOf]

theorem weightOf_le_of_sublist {kinds others : List MessageKind} (sublist : kinds.Sublist others) :
    weightOf kinds ≤ weightOf others :=
  (sublist.map MessageKind.weight).sum_le_sum fun _ _ => Nat.zero_le _

theorem weightOf_eq (kinds : List MessageKind) :
    weightOf kinds =
      3 * kinds.count .recvText + 2 * kinds.count .sendCommand +
        kinds.countP fun kind => kind ≠ .recvText ∧ kind ≠ .sendCommand := by
  induction kinds with
  | nil => rfl
  | cons kind kinds ih =>
    rw [weightOf_cons, ih]
    cases kind <;> simp [MessageKind.weight] <;> omega

/-- What a handler adds to the queue for a message, at most. -/
def CoreHandler.adds (kind : MessageKind) : CoreHandler → Nat
  | .ingress => if kind = .recvText then 2 else 0
  | .operations => if kind = .sendCommand then 1 else 0
  | .router => 0

/-! ## What sends add to a queue -/

/-- Whether a channel is bound to an endpoint. -/
def Directory.LeadsTo (directory : Directory) (e : EndpointId) : Prop :=
  ∃ channel ∈ directory.channels, channel.2 = e

def Network.kindsAt (net : Network ω) (e : EndpointId) : List MessageKind :=
  (net.queueAt e).map fun message => message.payload.kind

/-- The kinds of the messages that sends bring to an endpoint. -/
def kindsToward (e : EndpointId) (sends : List Transfer) : List MessageKind :=
  (sends.filterMap (Transfer.toward e)).map fun message => message.payload.kind

namespace Network

theorem queueAt_recordDropped (net : Network ω) (id e : EndpointId) :
    (net.recordDropped id).queueAt e = net.queueAt e := by
  apply queueAt_update
  intro endpoint
  rfl

/-- A send to an endpoint is appended to its queue, or leaves the queue as it is. -/
theorem queueAt_send_or (net : Network ω) (transfer : Transfer) (e : EndpointId) :
    (net.send transfer.message transfer.source transfer.destination).2.queueAt e =
        net.queueAt e ++ (transfer.toward e).toList ∨
      (net.send transfer.message transfer.source transfer.destination).2.queueAt e =
        net.queueAt e := by
  by_cases here : transfer.destination = e
  · subst here
    by_cases accepts : net.Accepts transfer.destination
    · exact .inl (queueAt_send accepts transfer)
    · rw [send_of_not_accepts accepts]
      exact .inr (queueAt_recordDropped net _ _)
  · right
    rw [queueAt, endpoint?_send_of_ne here, ← queueAt]

theorem kindsAt_sendAll (net : Network ω) (sends : List Transfer) (e : EndpointId) :
    ∃ arrived, arrived.Sublist (kindsToward e sends) ∧
      (net.sendAll sends).kindsAt e = net.kindsAt e ++ arrived := by
  induction sends generalizing net with
  | nil => exact ⟨[], .slnil, (List.append_nil _).symm⟩
  | cons transfer sends ih =>
    obtain ⟨arrived, among, grown⟩ :=
      ih (net.send transfer.message transfer.source transfer.destination).2
    have split : kindsToward e (transfer :: sends) =
        (transfer.toward e).toList.map (fun message => message.payload.kind) ++
          kindsToward e sends := by
      unfold kindsToward
      cases brought : transfer.toward e <;> simp [brought]
    rw [split]
    rcases queueAt_send_or net transfer e with appended | same
    · refine ⟨_ ++ arrived, among.append_left _, ?_⟩
      rw [sendAll, List.foldl_cons, ← sendAll, grown, kindsAt, appended, List.map_append,
        List.append_assoc, ← kindsAt]
    · refine ⟨arrived, among.trans (List.sublist_append_right _ _), ?_⟩
      rw [sendAll, List.foldl_cons, ← sendAll, grown, kindsAt, same, ← kindsAt]

theorem kindsAt_sendAll_of_accepts {net : Network ω} {e : EndpointId} (accepts : net.Accepts e)
    (sends : List Transfer) :
    (net.sendAll sends).kindsAt e = net.kindsAt e ++ kindsToward e sends := by
  rw [kindsAt, queueAt_sendAll accepts, List.map_append, ← kindsAt, kindsToward]

end Network

/-! ## Passes -/

/-- What some handlers of the core add to its queue for a message of some kind. -/
structure Feeds (own : EndpointId) (bound : Bool) (kind : MessageKind)
    (handlers : List CoreHandler) (net after : Network ω) (arrived : List MessageKind) : Prop where
  queue : after.kindsAt own = net.kindsAt own ++ arrived
  directory : after.context.directory = net.context.directory
  accepts : net.Accepts own → after.Accepts own
  /-- Without a channel to the core no more is added than the handlers may add. -/
  limited : ¬ net.context.directory.LeadsTo own →
    weightOf arrived ≤ (handlers.map (CoreHandler.adds kind)).sum
  /-- With one, the router sends an event back to the core. -/
  echoed : bound = true → net.Accepts own → net.context.directory.LeadsTo own →
    .router ∈ handlers → kind = .event → .event ∈ arrived

namespace Feeds

variable {own : EndpointId} {bound : Bool} {kind : MessageKind} {handlers others : List CoreHandler}
variable {net between after : Network ω} {arrived more : List MessageKind}

theorem refl (net : Network ω) : Feeds own bound kind [] net net [] where
  queue := (List.append_nil _).symm
  directory := rfl
  accepts := id
  limited := fun _ => Nat.le_refl 0
  echoed := nofun

theorem trans (first : Feeds own bound kind handlers net between arrived)
    (second : Feeds own bound kind others between after more) :
    Feeds own bound kind (handlers ++ others) net after (arrived ++ more) where
  queue := by rw [second.queue, first.queue, List.append_assoc]
  directory := second.directory.trans first.directory
  accepts := fun accepts => second.accepts (first.accepts accepts)
  limited := by
    intro noLoop
    rw [weightOf_append, List.map_append, List.sum_append]
    exact Nat.add_le_add (first.limited noLoop) (second.limited (first.directory ▸ noLoop))
  echoed := by
    intro isBound accepts loop router event
    rcases List.mem_append.mp router with router | router
    · exact List.mem_append_left _ (first.echoed isBound accepts loop router event)
    · exact List.mem_append_right _
        (second.echoed isBound (first.accepts accepts) (first.directory ▸ loop) router event)

/-- The sends of one handler. -/
theorem of_sends {handler : CoreHandler} {sends : List Transfer}
    (endpoints : between.endpoints = net.endpoints)
    (directory : between.context.directory = net.context.directory)
    (limited : ¬ net.context.directory.LeadsTo own →
      weightOf (kindsToward own sends) ≤ handler.adds kind)
    (echoed : bound = true → net.context.directory.LeadsTo own → handler = .router →
      kind = .event → .event ∈ kindsToward own sends) :
    ∃ arrived, Feeds own bound kind [handler] net (between.sendAll sends) arrived := by
  have record : between.endpoint? own = net.endpoint? own := by
    rw [Network.endpoint?, endpoints, ← Network.endpoint?]
  have kinds : between.kindsAt own = net.kindsAt own := by
    rw [Network.kindsAt, Network.queueAt, record, ← Network.queueAt, ← Network.kindsAt]
  have accepts (accepts : net.Accepts own) : between.Accepts own := by
    rw [Network.Accepts, record]
    exact accepts
  obtain ⟨arrived, among, grown⟩ := between.kindsAt_sendAll sends own
  refine ⟨arrived, grown.trans (kinds ▸ rfl), ?_, fun up => (accepts up).sendAll sends, ?_, ?_⟩
  · rw [Network.context_sendAll, directory]
  · intro noLoop
    simpa using Nat.le_trans (weightOf_le_of_sublist among) (limited noLoop)
  · intro isBound up loop router event
    have all : arrived = kindsToward own sends :=
      List.append_cancel_left (grown.symm.trans (Network.kindsAt_sendAll_of_accepts (accepts up) _))
    rw [all]
    exact echoed isBound loop (List.mem_singleton.mp router).symm event

/-- A handler that does nothing. -/
theorem idle {handler : CoreHandler} (still : handler = .router → bound = true → kind ≠ .event) :
    ∃ arrived, Feeds own bound kind [handler] net (net.sendAll []) arrived :=
  of_sends rfl rfl (fun _ => Nat.zero_le _)
    fun isBound _ router event => absurd event (still router isBound)

theorem recordDispatched (feeds : Feeds own bound kind handlers net after arrived)
    (id : EndpointId) : Feeds own bound kind handlers net (after.recordDispatched id) arrived where
  queue := by
    rw [Network.kindsAt, Network.queueAt_recordDispatched, ← Network.kindsAt, feeds.queue]
  directory := feeds.directory
  accepts := fun accepts => (feeds.accepts accepts).recordDispatched id
  limited := feeds.limited
  echoed := feeds.echoed

end Feeds

/-! ### Turns -/

/-- A handler's turn at a message, up to the return of its answer: the kind of the message stays,
and the core's queue is fed what the handler may add. -/
def Takes (scope : Scope) (handler : CoreHandler) (message : Message) (net : Network ω) : Prop :=
  ∃ message' answer between after arrived,
    (handle scope handler message).run Network.perform net =
      (⟨handler, message', answer⟩, between) ∧
    (Chain.returnHandled scope.endpoint ⟨handler, message', answer⟩).run Network.perform between =
      ((), after) ∧
    message'.payload.kind = message.payload.kind ∧
    Feeds scope.endpoint scope.bound message.payload.kind [handler] net after arrived

section Turns

variable (scope : Scope) (message : Message) (net : Network ω)

theorem run_context?_eq :
    (context? scope).run Network.perform net =
      (if scope.bound then some net.context else none, net) := by
  unfold context?
  split <;> rfl

/-- A handler that passes a message on without doing anything. -/
theorem takes_idle {handler : CoreHandler}
    (handled : (handle scope handler message).run Network.perform net =
      (⟨handler, message, none⟩, net))
    (still : handler = .router → scope.bound = true → message.payload.kind ≠ .event) :
    Takes scope handler message net := by
  obtain ⟨arrived, feeds⟩ : ∃ arrived, Feeds scope.endpoint scope.bound message.payload.kind
    [handler] net net arrived := Feeds.idle still
  exact ⟨message, none, net, net, arrived, handled, rfl, rfl, feeds⟩

/-- A handler that sends messages and has no answer. -/
theorem takes_sends {handler : CoreHandler} {sends : List Transfer}
    (handled : (handle scope handler message).run Network.perform net =
      (⟨handler, message, none⟩, net.sendAll sends))
    (limited : ¬ net.context.directory.LeadsTo scope.endpoint →
      weightOf (kindsToward scope.endpoint sends) ≤ handler.adds message.payload.kind)
    (echoed : net.context.directory.LeadsTo scope.endpoint → handler = .router →
      message.payload.kind = .event → .event ∈ kindsToward scope.endpoint sends) :
    Takes scope handler message net := by
  obtain ⟨arrived, feeds⟩ : ∃ arrived, Feeds scope.endpoint scope.bound message.payload.kind
    [handler] net (net.sendAll sends) arrived := Feeds.of_sends rfl rfl limited fun _ => echoed
  exact ⟨message, none, _, _, arrived, handled, rfl, rfl, feeds⟩

theorem takes_ingress : Takes scope .ingress message net := by
  obtain ⟨payload, route⟩ := message
  cases payload with
  | recvText line =>
    cases read : commandOf (((if scope.bound then some net.context else none).map
      Context.limits).getD {}) line with
    | error rejection =>
      -- A line that is refused leads to nothing
      refine takes_idle scope _ net ?_ fun router => absurd router (by decide)
      unfold commandOf at read
      simp only [handle, receive, Program.run_bind, run_context?_eq, read, Program.run]
    | ok command =>
      have handled : (handle scope .ingress ⟨.recvText line, route⟩).run Network.perform net =
          (⟨.ingress, ⟨.recvText line, route⟩, none⟩,
            net.sendAll [⟨.ofPayload (.sendCommand command), net.requesterOf scope.endpoint route,
              scope.endpoint⟩]) := by
        unfold commandOf at read
        simp only [handle, receive, Program.run_bind, run_context?_eq, read, run_requester]
        rfl
      refine takes_sends scope _ net handled (fun _ => ?_) fun _ router => absurd router (by decide)
      rw [kindsToward, List.filterMap_cons_some (toward_self _ _ _)]
      exact Nat.le_refl 2
  | _ => exact takes_idle scope _ net rfl fun router => absurd router (by decide)

/-- The answer to a command adds one message to the core's queue, if it was the core that asked. -/
theorem weightOf_answerSends (own : EndpointId) (route : Option Route) (text : TextPayload) :
    weightOf (kindsToward own (answerSends net own route (.ofPayload (.sendText text)))) ≤ 1 := by
  unfold answerSends
  split
  · exact Nat.zero_le 1
  split
  · next route living =>
    by_cases here : route.source = own
    · simp [kindsToward, Transfer.toward, here, weightOf, Transfer.routed, Message.routed,
        Message.ofPayload, Payload.kind, MessageKind.weight]
    · simp [kindsToward, Transfer.toward, here, weightOf]
  · exact Nat.zero_le 1

/-- A request for the shutdown leaves endpoints and channels as they are. -/
theorem run_quit (command : Command) :
    ∃ between, (quit scope command).run Network.perform net = ((), between) ∧
      between.endpoints = net.endpoints ∧
      between.context.directory = net.context.directory := by
  unfold quit
  split
  · exact ⟨_, rfl, rfl, rfl⟩
  · exact ⟨_, rfl, rfl, rfl⟩

theorem takes_operations : Takes scope .operations message net := by
  obtain ⟨payload, route⟩ := message
  cases payload with
  | sendCommand command =>
    obtain ⟨between, quitting, endpoints, directory⟩ := run_quit scope net command
    obtain ⟨command', text, handled⟩ : ∃ command' text,
        (handle scope .operations ⟨.sendCommand command, route⟩).run Network.perform net =
          (⟨.operations, ⟨.sendCommand command', route⟩, some (.ofPayload (.sendText text))⟩,
            between) := by
      simp only [handle, execute, Program.run_bind, run_context?_eq, quitting]
      exact ⟨_, _, rfl⟩
    have returned := run_returnAnswer scope.endpoint ⟨.sendCommand command', route⟩
      (.ofPayload (.sendText text)) between
    obtain ⟨arrived, feeds⟩ : ∃ arrived, Feeds scope.endpoint scope.bound .sendCommand
        [.operations] net
        (between.sendAll (answerSends between scope.endpoint route (.ofPayload (.sendText text))))
        arrived :=
      Feeds.of_sends endpoints directory
        (fun _ => weightOf_answerSends between scope.endpoint route text)
        fun _ _ router => absurd router (by decide)
    exact ⟨_, _, between, _, arrived, handled, returned, rfl, feeds⟩
  | _ => exact takes_idle scope _ net rfl fun router => absurd router (by decide)

/-- Where no channel is bound to the core, the router sends nothing to it. -/
theorem kindsToward_routerSends {context : Context} {own : EndpointId}
    (noLoop : ¬ context.directory.LeadsTo own) (payload : Payload) :
    kindsToward own (routerSends context own payload) = [] := by
  have elsewhere : (routerSends context own payload).filterMap (Transfer.toward own) = [] := by
    rw [List.filterMap_eq_nil_iff]
    intro transfer among
    refine if_neg fun here => noLoop ?_
    unfold routerSends at among
    split at among
    · obtain ⟨channel, member, rfl⟩ := List.mem_map.mp among
      exact ⟨channel, member, here⟩
    · next payload =>
      split at among
      · contradiction
      · next endpoint found =>
        obtain rfl := List.mem_singleton.mp among
        obtain ⟨source, _, found⟩ := Option.bind_eq_some_iff.mp found
        obtain ⟨tag, _, found⟩ := Option.bind_eq_some_iff.mp found
        exact ⟨_, NameTable.mem_of_find? found, here⟩
    · contradiction
  rw [kindsToward, elsewhere, List.map_nil]

theorem event_mem_kindsToward {context : Context} {own : EndpointId}
    (loop : context.directory.LeadsTo own) {payload : Payload} (event : payload.kind = .event) :
    .event ∈ kindsToward own (routerSends context own payload) := by
  obtain ⟨channel, member, rfl⟩ := loop
  cases payload with
  | event text =>
    rw [kindsToward, List.mem_map]
    refine ⟨(Message.ofPayload (.event text)).routed channel.2 channel.2, ?_, rfl⟩
    exact List.mem_filterMap.mpr
      ⟨⟨.ofPayload (.event text), channel.2, channel.2⟩, List.mem_map_of_mem member,
        toward_self _ _ _⟩
  | _ => contradiction

theorem takes_router : Takes scope .router message net := by
  by_cases bound : scope.bound = true
  · refine takes_sends scope message net (run_router bound message net) (fun noLoop => ?_)
      fun loop _ event => event_mem_kindsToward loop event
    rw [kindsToward_routerSends noLoop]
    exact Nat.zero_le _
  · refine takes_idle scope message net ?_ fun _ isBound => absurd isBound bound
    simp only [handle, Program.run_bind, run_context?_eq, if_neg bound, Program.run]

theorem takes (handler : CoreHandler) : Takes scope handler message net := by
  cases handler with
  | ingress => exact takes_ingress scope message net
  | operations => exact takes_operations scope message net
  | router => exact takes_router scope message net

end Turns

/-! ### Dispatches -/

/-- A pass over enabled handlers of the core calls all of them, and feeds the core's queue what they
may add. -/
theorem run_offerEntries_feeds {own : EndpointId} {bound : Bool}
    {entries : List (Entry CoreHandler)} (enabled : ∀ entry ∈ entries, entry.enabled = true)
    (message : Message) (changes : List ChainChange) (net : Network ω) :
    ∃ after arrived,
      (Chain.offerEntries behaviour own bound entries message changes).run Network.perform net =
        (⟨entries, changes, entries.length⟩, after) ∧
      Feeds own bound message.payload.kind (entries.map Entry.handler) net after arrived := by
  induction entries generalizing message net with
  | nil => exact ⟨net, [], rfl, .refl net⟩
  | cons entry rest ih =>
    obtain ⟨message', answer, between, returnedNet, arrived, handled, returned, kind, feeds⟩ :=
      takes (Chain.scope own bound entry) message net entry.handler
    obtain ⟨after, more, followed, others⟩ :=
      ih (fun other member => enabled other (List.mem_cons_of_mem _ member)) message' returnedNet
    rw [kind] at others
    exact ⟨after, arrived ++ more,
      run_offerEntries_cons entry (enabled entry List.mem_cons_self) handled returned followed,
      feeds.trans others⟩

/-- A chain of the core's three handlers, in whatever order they stand, all enabled. -/
structure Chain.IsCore (chain : Chain CoreHandler) : Prop where
  handlers : (chain.entries.map Entry.handler).Perm [.ingress, .operations, .router]
  enabled : ∀ entry ∈ chain.entries, entry.enabled = true

section Dispatches

variable {site : Site ω CoreHandler}

/-- A dispatch leaves the core's mailbox as it is. If the core is tearing down nothing is added to
its queue, and otherwise what the three handlers may add. -/
theorem Chain.IsCore.dispatch (core : site.mailbox.chain.IsCore) (message : Message) :
    (site.dispatch behaviour message).2.mailbox = site.mailbox ∧
      ∃ arrived, Feeds site.own site.mailbox.chain.bound message.payload.kind
        (site.mailbox.chain.entries.map Entry.handler) site.network
        (site.dispatch behaviour message).2.network arrived := by
  unfold Site.dispatch
  by_cases down : site.isTearingDown = true
  · rw [if_pos down]
    refine ⟨rfl, [], ?_, rfl, fun accepts => accepts.update _ (fun _ => rfl) fun _ => rfl,
      fun _ => Nat.zero_le _, fun _ accepts => ?_⟩
    · rw [List.append_nil]
      exact congrArg _ (Network.queueAt_recordDropped _ _ _)
    · exact nomatch accepts.not_isTearingDown.symm.trans down
  rw [if_neg down]
  obtain ⟨after, arrived, offered, feeds⟩ : ∃ after arrived,
      (Chain.offerEntries behaviour site.own site.mailbox.chain.bound site.mailbox.chain.entries
        message []).run Network.perform site.network = _ ∧
        Feeds _ _ _ _ site.network after arrived :=
    run_offerEntries_feeds core.enabled message [] site.network
  have performed : site.perform (site.pass behaviour message) =
      ((site.mailbox.chain.entries.length, site.mailbox.chain), site.withNetwork after) := by
    simp only [Site.perform, Site.pass, Chain.offer, Program.run_bind, offered]
    rfl
  simp only [performed]
  exact ⟨rfl, arrived, feeds.recordDispatched site.own⟩

/-- What the three handlers may add for a message weighs less than the message. -/
theorem Chain.IsCore.adds_lt {chain : Chain CoreHandler} (core : chain.IsCore)
    (kind : MessageKind) :
    ((chain.entries.map Entry.handler).map (CoreHandler.adds kind)).sum < kind.weight := by
  rw [(core.handlers.map _).sum_eq]
  cases kind <;> decide

theorem Chain.IsCore.router_mem {chain : Chain CoreHandler} (core : chain.IsCore) :
    .router ∈ chain.entries.map Entry.handler :=
  core.handlers.mem_iff.mpr (by simp)

/-! ## Pumps -/

theorem Site.kindsAt_take {rest : Site ω CoreHandler} {message : Message}
    (took : site.take = some (message, rest)) :
    site.network.kindsAt site.own = message.payload.kind :: rest.network.kindsAt site.own ∧
      rest.network.context = site.network.context ∧ rest.mailbox = site.mailbox := by
  obtain ⟨queue, context, mailbox⟩ := Site.queueAt_take took
  refine ⟨?_, context, mailbox⟩
  rw [Network.kindsAt, queue]
  rfl

/-- Where no channel is bound to the core, a drain ends with the core's queue empty, after as many
dispatches as the queue weighed at most. -/
theorem Chain.IsCore.drains (core : site.mailbox.chain.IsCore)
    (noLoop : ¬ site.network.context.directory.LeadsTo site.own) (taken : Nat) :
    ∃ steps dispatches after,
      (∀ fuel, Loop.run behaviour (fuel + steps) ⟨.draining 1 0 taken, .free⟩ site =
        .ended (.drained (taken + dispatches)) after) ∧
      after.network.queueAt site.own = [] ∧
      dispatches ≤ weightOf (site.network.kindsAt site.own) := by
  -- Each dispatch takes away more weight than it adds
  induction weight : weightOf (site.network.kindsAt site.own) using Nat.strong_induction_on
    generalizing site taken with
  | h weight ih =>
  subst weight
  cases took : site.take with
  | none =>
    exact ⟨2, 0, site, Loop.run_empty took, Site.queueAt_of_take_eq_none took, Nat.zero_le _⟩
  | some oldest =>
    obtain ⟨message, rest⟩ := oldest
    obtain ⟨queue, context, mailbox⟩ := Site.kindsAt_take took
    rw [← mailbox] at core
    have own : rest.own = site.own := congrArg Mailbox.endpoint mailbox
    rw [← context, ← own] at noLoop
    obtain ⟨kept, arrived, feeds⟩ := core.dispatch message
    have own' : (rest.dispatch behaviour message).2.own = site.own :=
      (congrArg Mailbox.endpoint kept).trans own
    have lighter : weightOf ((rest.dispatch behaviour message).2.network.kindsAt site.own) <
        weightOf (site.network.kindsAt site.own) := by
      have less := Nat.lt_of_le_of_lt (feeds.limited noLoop) (core.adds_lt message.payload.kind)
      rw [← own, feeds.queue, own, queue, weightOf_append, weightOf_cons]
      omega
    have loop' : ¬ (rest.dispatch behaviour message).2.network.context.directory.LeadsTo
        (rest.dispatch behaviour message).2.own := by
      rw [feeds.directory, own', ← own]
      exact noLoop
    obtain ⟨more, dispatches, after, ran, empty, few⟩ :=
      ih _ lighter (kept ▸ core) loop' (taken + 1) (by rw [own'])
    obtain ⟨steps, reached⟩ := Loop.run_free (B := behaviour) taken Nat.one_pos took
    refine ⟨more + (steps + 1), dispatches + 1, after, fun fuel => ?_, own' ▸ empty, by omega⟩
    rw [← Nat.add_assoc, reached, ran, Nat.add_assoc, Nat.add_comm 1]

/-! ### Pumps that do not end -/

/-- A core in whose queue there will always be an event. -/
structure Echoes (site : Site ω CoreHandler) : Prop where
  core : site.mailbox.chain.IsCore
  bound : site.mailbox.chain.bound = true
  loop : site.network.context.directory.LeadsTo site.own
  accepts : site.network.Accepts site.own
  event : .event ∈ site.network.kindsAt site.own

namespace Echoes

theorem dispatch (echoes : Echoes site) {message : Message} {rest : Site ω CoreHandler}
    (took : site.take = some (message, rest)) : Echoes (rest.dispatch behaviour message).2 := by
  obtain ⟨queue, context, mailbox⟩ := Site.kindsAt_take took
  obtain ⟨core, bound, loop, accepts, event⟩ := echoes
  have accepts := accepts.take (Site.take_eq_some took)
  have own : rest.own = site.own := congrArg Mailbox.endpoint mailbox
  rw [queue] at event
  rw [← mailbox] at core bound
  rw [← own] at accepts event
  rw [← own, ← context] at loop
  obtain ⟨kept, arrived, feeds⟩ := core.dispatch message
  have own' : (rest.dispatch behaviour message).2.own = rest.own :=
    congrArg Mailbox.endpoint kept
  refine ⟨kept ▸ core, kept ▸ bound, ?_, own' ▸ feeds.accepts accepts, ?_⟩
  · rw [feeds.directory, own']
    exact loop
  · rw [own', feeds.queue, List.mem_append]
    rcases List.mem_cons.mp event with now | later
    · exact .inr (feeds.echoed bound accepts loop core.router_mem now.symm)
    · exact .inl later

theorem exists_take (echoes : Echoes site) : ∃ message rest, site.take = some (message, rest) := by
  cases took : site.take with
  | some taken => exact ⟨taken.1, taken.2, rfl⟩
  | none =>
    have event := echoes.event
    rw [Network.kindsAt, Site.queueAt_of_take_eq_none took] at event
    exact nomatch event

theorem next (echoes : Echoes site) :
    Echoes (dispatchOldest site) ∧ (dispatchOldest site).own = site.own := by
  obtain ⟨message, rest, took⟩ := echoes.exists_take
  obtain ⟨_, _, mailbox⟩ := Site.kindsAt_take took
  have kept := (Chain.IsCore.dispatch (mailbox ▸ echoes.core) message).1
  have oldest : dispatchOldest site = (rest.dispatch behaviour message).2 := by
    rw [dispatchOldest, took]
  rw [oldest]
  exact ⟨echoes.dispatch took, congrArg Mailbox.endpoint (kept.trans mailbox)⟩

theorem iterate (echoes : Echoes site) (dispatches : Nat) :
    Echoes (dispatchOldest^[dispatches] site) ∧
      (dispatchOldest^[dispatches] site).own = site.own := by
  induction dispatches generalizing site with
  | zero => exact ⟨echoes, rfl⟩
  | succ dispatches ih =>
    obtain ⟨still, own⟩ := echoes.next
    obtain ⟨later, same⟩ := ih still
    exact ⟨later, same.trans own⟩

/-- Such a core is never pumped empty, however many steps the pump may take. -/
theorem not_ended (echoes : Echoes site) (fuel taken : Nat) (how : LoopEnd)
    (after : Site ω CoreHandler) :
    Loop.run behaviour fuel ⟨.draining 1 0 taken, .free⟩ site ≠ .ended how after := by
  induction fuel using Nat.strong_induction_on generalizing site taken with
  | h fuel ih =>
  intro ended
  obtain ⟨message, rest, took⟩ := echoes.exists_take
  obtain ⟨left, fewer, still⟩ := Loop.run_free_ended Nat.one_pos took ended
  exact ih left fewer (echoes.dispatch took) (taken + 1) still

end Echoes

end Dispatches

/-- A core with its three handlers, in whatever order and with or without the shared context. If no
channel is bound to the core, a pump returns with the core's queue empty, after at most three
dispatches for each line in the queue, two for each command and one for anything else. If there is
such a channel and the context is bound, one event in the queue is enough that no number of
dispatches empties it, and that the pump never returns. -/
theorem pump_core (site : Site ω CoreHandler) (core : site.mailbox.chain.IsCore) :
    (¬ site.network.context.directory.LeadsTo site.own →
      ∃ enough dispatches after,
        (∀ fuel ≥ enough, site.pump behaviour fuel = .ended (.drained dispatches) after) ∧
        after.network.queueAt site.own = [] ∧
        dispatches ≤ 3 * (site.network.kindsAt site.own).count .recvText +
          2 * (site.network.kindsAt site.own).count .sendCommand +
          (site.network.kindsAt site.own).countP
            fun kind => kind ≠ .recvText ∧ kind ≠ .sendCommand) ∧
    (site.mailbox.chain.bound = true → site.network.context.directory.LeadsTo site.own →
      site.network.Accepts site.own → .event ∈ site.network.kindsAt site.own →
      (∀ dispatches, (dispatchOldest^[dispatches] site).network.queueAt site.own ≠ []) ∧
      ∀ fuel how after, site.pump behaviour fuel ≠ .ended how after) := by
  constructor
  · intro noLoop
    obtain ⟨steps, dispatches, after, ran, empty, few⟩ := core.drains noLoop 0
    rw [weightOf_eq] at few
    refine ⟨steps, dispatches, after, fun fuel enough => ?_, empty, few⟩
    obtain ⟨fuel, rfl⟩ := Nat.exists_eq_add_of_le' enough
    exact (ran fuel).trans (by rw [Nat.zero_add])
  · intro bound loop accepts event
    have echoes : Echoes site := ⟨core, bound, loop, accepts, event⟩
    refine ⟨fun dispatches empty => ?_, fun fuel how after => echoes.not_ended fuel 0 how after⟩
    obtain ⟨later, own⟩ := echoes.iterate dispatches
    have event := later.event
    rw [own, Network.kindsAt, empty] at event
    exact nomatch event

/-- A core with a line of an endpoint that is gone and a command of its own in its queue. The
channel of that name is bound to some endpoint. -/
def crowdedCore (channel : EndpointId) : Site Unit CoreHandler where
  mailbox := coreAndClients.mailbox
  network :=
    { context := { directory := { channels := [("TTY", channel)] } }
      endpoints :=
        [{ name := "core"
           queue :=
             { front :=
                 [⟨.recvText { text := "AT=(7,\"ping\")", source := some "TTY" }, some ⟨⟨5⟩, ⟨0⟩⟩⟩,
                   ⟨.sendCommand { id := 8, operation := "ping", arguments := [] },
                     some ⟨⟨0⟩, ⟨0⟩⟩⟩,
                   ⟨.event "AT*EV", some ⟨⟨1⟩, ⟨0⟩⟩⟩] } },
          { name := "client" }] }

theorem pump_core_crowded :
    (∃ enough dispatches after,
      (∀ fuel ≥ enough,
        (crowdedCore ⟨1⟩).pump behaviour fuel = .ended (.drained dispatches) after) ∧
      after.network.queueAt ⟨0⟩ = [] ∧ dispatches ≤ 6) ∧
    (∀ dispatches, (dispatchOldest^[dispatches] (crowdedCore ⟨0⟩)).network.queueAt ⟨0⟩ ≠ []) ∧
    ∀ fuel how after, (crowdedCore ⟨0⟩).pump behaviour fuel ≠ .ended how after := by
  have core : coreAndClients.mailbox.chain.IsCore := ⟨.refl _, by decide⟩
  have away : ¬ (crowdedCore ⟨1⟩).network.context.directory.LeadsTo ⟨0⟩ := by
    simp [crowdedCore, Directory.LeadsTo]
  obtain ⟨enough, dispatches, after, ended, empty, few⟩ :=
    (pump_core (crowdedCore ⟨1⟩) core).1 away
  have back : (crowdedCore ⟨0⟩).network.context.directory.LeadsTo ⟨0⟩ :=
    ⟨("TTY", ⟨0⟩), List.mem_singleton_self _, rfl⟩
  exact ⟨⟨enough, dispatches, after, ended, empty, few.trans (by decide)⟩,
    (pump_core (crowdedCore ⟨0⟩) core).2 rfl back ⟨_, rfl, rfl, rfl⟩ (by decide)⟩

end AgentBus
