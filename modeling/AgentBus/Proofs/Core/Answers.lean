import Mathlib.Data.List.Forall2
import AgentBus.Proofs.Core.Dispatch

/-!
# Answers in order

Clients send lines, texts and events to the core while it dispatches one message after the other.
A line makes two passes through the core's queue, first as it was received and then as a command,
with any other traffic in between. Still each client gets one answer for each of its lines that is a
command, in the order of the lines (`answers_in_order`).

The invariant is `InOrder`: the commands among a client's lines are those that were answered, then
those that wait in the queue as commands, then those that wait in it as lines.
-/

namespace AgentBus

open CoreHandler

variable {ω : Type}

/-! ## Lines and answers -/

/-- What clients send to the core: everything but commands and exits. -/
def Payload.isFromClient : Payload → Bool
  | .recvText _ | .sendText _ | .transportText _ | .event _ => true
  | .sendCommand _ | .exit => false

def Payload.line? : Payload → Option TextPayload
  | .recvText line => some line
  | _ => none

def Message.isSendText (message : Message) : Bool :=
  message.payload.kind = .sendText

def linesFrom (c : EndpointId) (sent : List (EndpointId × Payload)) : List TextPayload :=
  sent.filterMap fun entry => if entry.1 = c then entry.2.line? else none

def accepted (limits : Limits) (lines : List TextPayload) : List TextPayload :=
  lines.filter fun line => (commandOf limits line).isOk

theorem accepted_cons_of_error {limits : Limits} {line : TextPayload} {rejection : Rejection}
    (read : commandOf limits line = .error rejection) (lines : List TextPayload) :
    accepted limits (line :: lines) = accepted limits lines :=
  List.filter_cons_of_neg (by rw [read]; nofun)

theorem accepted_cons_of_ok {limits : Limits} {line : TextPayload} {command : Command}
    (read : commandOf limits line = .ok command) (lines : List TextPayload) :
    accepted limits (line :: lines) = line :: accepted limits lines :=
  List.filter_cons_of_pos (by rw [read]; rfl)

/-- A command in a pass of the core, with the shared context then. -/
structure Order where
  context : Context
  command : Command

/-- A message is the core's answer to a line of a client, by a pass over the line's command: it
carries the rendered answer to the command in the context of that pass, under the command's id, and
the folded tag of the line's source. -/
def Replies (limits : Limits) (core c : EndpointId) (line : TextPayload) (reply : Order × Message) :
    Prop :=
  commandOf limits line = .ok reply.1.command ∧
    (executed reply.1.context reply.1.command).answer.id = reply.1.command.id ∧
    reply.2 =
      ⟨.sendText ⟨(executed reply.1.context reply.1.command).answer.render,
          line.source.map SourceTag.fold⟩,
        some ⟨core, c⟩⟩

theorem sourceTag_eq_ok {source : Option String} {limits : Limits} {tag : Option SourceTag}
    (tagged : Command.sourceTag source limits = .ok tag) :
    tag.map SourceTag.raw = source.map SourceTag.fold := by
  unfold Command.sourceTag at tagged
  split at tagged
  · obtain rfl := Except.ok.inj tagged
    rfl
  · split at tagged
    · next found =>
      obtain rfl := Except.ok.inj tagged
      simp only [SourceTag.ofText?] at found
      split at found
      · contradiction
      · obtain rfl := Option.some.inj found
        rfl
    · contradiction

theorem ofElements_eq_ok {elements : List Arg} {source : Option String} {limits : Limits}
    {command : Command} (read : Command.ofElements elements source limits = .ok command) :
    command.pending = none ∧ Command.sourceTag source limits = .ok command.source := by
  unfold Command.ofElements at read
  split at read
  · split at read
    · contradiction
    split at read
    · contradiction
    cases tagged : Command.sourceTag source limits with
    | error rejection => simp [tagged, Except.map] at read
    | ok tag =>
      rw [tagged] at read
      obtain rfl := Except.ok.inj read
      exact ⟨rfl, rfl⟩
  · contradiction

/-- A command that was read has no answer yet, and its tag is that of the source. -/
theorem sourceTag_of_ofText {text : String} {source : Option String} {limits : Limits}
    {command : Command} (read : Command.ofText text source limits = .ok command) :
    command.pending = none ∧ Command.sourceTag source limits = .ok command.source := by
  unfold Command.ofText at read
  split at read
  · contradiction
  split at read
  · contradiction
  · split at read
    · contradiction
    split at read
    · contradiction
    · exact ofElements_eq_ok read
  · contradiction

theorem of_ofText {text : String} {source : Option String} {limits : Limits} {command : Command}
    (read : Command.ofText text source limits = .ok command) :
    command.pending = none ∧ command.source.map SourceTag.raw = source.map SourceTag.fold := by
  obtain ⟨fresh, tagged⟩ := sourceTag_of_ofText read
  exact ⟨fresh, sourceTag_eq_ok tagged⟩

/-- What the core returns for a command of a client's line is an answer to that line. -/
theorem replies_of_commandOf {limits : Limits} {line : TextPayload} {command : Command}
    (read : commandOf limits line = .ok command) (context : Context) (core c : EndpointId) :
    Replies limits core c line
      (⟨context, command⟩,
        ⟨.sendText (answerText (executed context command)), some ⟨core, c⟩⟩) := by
  obtain ⟨fresh, tag⟩ := of_ofText read
  refine ⟨read, ?_, ?_⟩
  · simp [executed, Command.execute, Command.updateAnswer, Command.answer, fresh]
  · rw [← tag]
    rfl

/-! ## Messages in the core's queue -/

/-- The line of a client that a message is. -/
def Message.lineOf? (c : EndpointId) : Message → Option TextPayload
  | ⟨.recvText line, some route⟩ => if route.source = c then some line else none
  | _ => none

/-- The command on behalf of a client that a message is. -/
def Message.orderOf? (c : EndpointId) : Message → Option Command
  | ⟨.sendCommand command, some route⟩ => if route.source = c then some command else none
  | _ => none

def Message.IsSilent (c : EndpointId) (message : Message) : Prop :=
  message.lineOf? c = none ∧ message.orderOf? c = none

/-- A pass of the core over a message, with the shared context then. -/
structure CorePass where
  context : Context
  message : Message

/-- The commands on behalf of a client that the core has passed over. -/
def ordersFrom (c : EndpointId) (passes : List CorePass) : List Order :=
  passes.filterMap fun pass => (pass.message.orderOf? c).map fun command => ⟨pass.context, command⟩

theorem ordersFrom_of_none {c : EndpointId} {message : Message}
    (noOrder : message.orderOf? c = none)
    (context : Context) : ordersFrom c [⟨context, message⟩] = [] := by
  rw [ordersFrom, List.filterMap_cons_none (by rw [noOrder]; rfl), List.filterMap_nil]

theorem ordersFrom_of_some {c : EndpointId} {message : Message} {command : Command}
    (isOrder : message.orderOf? c = some command) (context : Context) :
    ordersFrom c [⟨context, message⟩] = [⟨context, command⟩] := by
  rw [ordersFrom, List.filterMap_cons_some (by rw [isOrder]; rfl), List.filterMap_nil]

/-- The messages are the answers to the lines, one for each in order, by these passes. -/
def AnsweredBy (limits : Limits) (core c : EndpointId) (lines : List TextPayload)
    (orders : List Order) (answers : List Message) : Prop :=
  ∃ replies, replies.map Prod.fst = orders ∧ replies.map Prod.snd = answers ∧
    List.Forall₂ (Replies limits core c) lines replies

theorem AnsweredBy.nil {limits : Limits} {core c : EndpointId} :
    AnsweredBy limits core c [] [] [] :=
  ⟨[], rfl, rfl, .nil⟩

theorem AnsweredBy.snoc {limits : Limits} {core c : EndpointId} {lines : List TextPayload}
    {orders : List Order} {answers : List Message} {line : TextPayload} {order : Order}
    {answer : Message} (answered : AnsweredBy limits core c lines orders answers)
    (replies : Replies limits core c line (order, answer)) :
    AnsweredBy limits core c (lines ++ [line]) (orders ++ [order]) (answers ++ [answer]) := by
  obtain ⟨earlier, rfl, rfl, all⟩ := answered
  exact ⟨earlier ++ [(order, answer)], List.map_append, List.map_append,
    List.rel_append all (.cons replies .nil)⟩

/-- The commands among a client's lines are those that were answered, then those that wait in the
queue as commands, then those that wait in it as lines. -/
def InOrder (limits : Limits) (core c : EndpointId) (lines : List TextPayload)
    (queue : List Message) (orders : List Order) (answers : List Message) : Prop :=
  ∃ answered waiting,
    accepted limits lines =
      answered ++ (waiting ++ accepted limits (queue.filterMap (Message.lineOf? c))) ∧
    AnsweredBy limits core c answered orders answers ∧
    List.Forall₂ (fun line command => commandOf limits line = .ok command) waiting
      (queue.filterMap (Message.orderOf? c))

namespace InOrder

variable {limits : Limits} {core c : EndpointId} {lines : List TextPayload}
variable {queue answers : List Message} {orders : List Order}

theorem empty : InOrder limits core c [] [] [] [] :=
  ⟨[], [], rfl, .nil, .nil⟩

/-- Once the queue is empty, all commands are answered. -/
theorem of_queue_empty (order : InOrder limits core c lines [] orders answers) :
    AnsweredBy limits core c (accepted limits lines) orders answers := by
  obtain ⟨answered, waiting, split, replies, commands⟩ := order
  obtain rfl := List.forall₂_nil_right_iff.mp commands
  have all : accepted limits lines = answered := by simpa [accepted] using split
  rw [all]
  exact replies

/-- Messages that are silent for the client change nothing at the end of the queue. -/
theorem append_silent {more : List Message} (silent : ∀ message ∈ more, message.IsSilent c)
    (order : InOrder limits core c lines queue orders answers) :
    InOrder limits core c lines (queue ++ more) orders answers := by
  have noLines : more.filterMap (Message.lineOf? c) = [] :=
    List.filterMap_eq_nil_iff.mpr fun message member => (silent message member).1
  have noOrders : more.filterMap (Message.orderOf? c) = [] :=
    List.filterMap_eq_nil_iff.mpr fun message member => (silent message member).2
  unfold InOrder
  rw [List.filterMap_append, List.filterMap_append, noLines, noOrders, List.append_nil,
    List.append_nil]
  exact order

/-- Nor do they at its head. -/
theorem drop_silent {message : Message} (silent : message.IsSilent c)
    (order : InOrder limits core c lines (message :: queue) orders answers) :
    InOrder limits core c lines queue orders answers := by
  unfold InOrder at order
  rw [List.filterMap_cons_none silent.1, List.filterMap_cons_none silent.2] at order
  exact order

theorem send_line {message : Message} {line : TextPayload} (isLine : message.lineOf? c = some line)
    (noOrder : message.orderOf? c = none)
    (order : InOrder limits core c lines queue orders answers) :
    InOrder limits core c (lines ++ [line]) (queue ++ [message]) orders answers := by
  obtain ⟨answered, waiting, split, replies, commands⟩ := order
  refine ⟨answered, waiting, ?_, replies, ?_⟩
  · rw [List.filterMap_append, List.filterMap_cons_some isLine, List.filterMap_nil]
    simp only [accepted, List.filter_append] at split ⊢
    rw [split]
    simp
  · rw [List.filterMap_append, List.filterMap_cons_none noOrder, List.filterMap_nil,
      List.append_nil]
    exact commands

theorem reject {message : Message} {line : TextPayload} {rejection : Rejection}
    (isLine : message.lineOf? c = some line) (noOrder : message.orderOf? c = none)
    (read : commandOf limits line = .error rejection)
    (order : InOrder limits core c lines (message :: queue) orders answers) :
    InOrder limits core c lines queue orders answers := by
  obtain ⟨answered, waiting, split, replies, commands⟩ := order
  refine ⟨answered, waiting, ?_, replies, ?_⟩
  · rw [split, List.filterMap_cons_some isLine, accepted_cons_of_error read]
  · rw [List.filterMap_cons_none noOrder] at commands
    exact commands

/-- The oldest line of the client is a command, which is sent to the end of the queue. -/
theorem accept {message message' : Message} {line : TextPayload} {command : Command}
    (isLine : message.lineOf? c = some line) (noOrder : message.orderOf? c = none)
    (noLine' : message'.lineOf? c = none) (isOrder' : message'.orderOf? c = some command)
    (read : commandOf limits line = .ok command)
    (order : InOrder limits core c lines (message :: queue) orders answers) :
    InOrder limits core c lines (queue ++ [message']) orders answers := by
  obtain ⟨answered, waiting, split, replies, commands⟩ := order
  -- The line leaves the queue's lines at their head and joins the waiting ones at their end, so the
  -- commands stay in order although the message goes to the end of the queue
  refine ⟨answered, waiting ++ [line], ?_, replies, ?_⟩
  · rw [split, List.filterMap_cons_some isLine, accepted_cons_of_ok read, List.filterMap_append,
      List.filterMap_cons_none noLine', List.filterMap_nil, List.append_nil, List.append_assoc]
    rfl
  · rw [List.filterMap_cons_none noOrder] at commands
    rw [List.filterMap_append, List.filterMap_cons_some isOrder', List.filterMap_nil]
    exact List.rel_append commands (.cons read .nil)

theorem answer {message reply : Message} {command : Command} {context : Context}
    (noLine : message.lineOf? c = none) (isOrder : message.orderOf? c = some command)
    (replies : ∀ line, commandOf limits line = .ok command →
      Replies limits core c line (⟨context, command⟩, reply))
    (order : InOrder limits core c lines (message :: queue) orders answers) :
    InOrder limits core c lines queue (orders ++ [⟨context, command⟩]) (answers ++ [reply]) := by
  obtain ⟨answered, waiting, split, replied, commands⟩ := order
  rw [List.filterMap_cons_some isOrder] at commands
  rw [List.filterMap_cons_none noLine] at split
  -- The oldest command of the queue belongs to the oldest waiting line
  obtain ⟨line, others, read, later, rfl⟩ := List.forall₂_cons_right_iff.mp commands
  refine ⟨answered ++ [line], others, ?_, replied.snoc (replies line read), later⟩
  rw [split, List.append_assoc]
  rfl

end InOrder

/-! ## Dispatches of the core -/

/-- A message as it lies in the core's queue, with its source. -/
def Message.AddressedTo (core : EndpointId) (message : Message) : Prop :=
  ∃ source, message.route = some ⟨source, core⟩

section Dispatch

variable {net : Network ω} {core c : EndpointId}

theorem toward_self (message : Message) (source e : EndpointId) :
    (⟨message, source, e⟩ : Transfer).toward e = some (message.routed source e) := by
  rw [Transfer.toward, if_pos rfl]
  rfl

theorem toward_of_ne {destination e : EndpointId} (elsewhere : destination ≠ e)
    (message : Message) (source : EndpointId) :
    (⟨message, source, destination⟩ : Transfer).toward e = none := by
  rw [Transfer.toward, if_neg elsewhere]

theorem of_toward_eq_some {transfer : Transfer} {e : EndpointId} {message : Message}
    (brought : transfer.toward e = some message) :
    transfer.destination = e ∧ transfer.routed = message := by
  unfold Transfer.toward at brought
  split at brought
  · next here => exact ⟨here, Option.some.inj brought⟩
  · contradiction

theorem addressedTo_of_toward {transfer : Transfer} {e : EndpointId} {message : Message}
    (brought : transfer.toward e = some message) : message.AddressedTo e := by
  obtain ⟨rfl, rfl⟩ := of_toward_eq_some brought
  exact ⟨transfer.source, rfl⟩

/-- A line of the client that is no command is dropped. -/
theorem responses_reject {line : TextPayload} {rejection : Rejection}
    (read : commandOf net.context.limits line = .error rejection) (route : Option Route) :
    responses net core ⟨.recvText line, route⟩ = [] := by
  simp only [responses, ingressSends, read]

/-- A line of the client that is a command goes back to the core on the client's behalf. -/
theorem responses_accept (client : net.Accepts c) {line : TextPayload} {command : Command}
    (read : commandOf net.context.limits line = .ok command) :
    responses net core ⟨.recvText line, some ⟨c, core⟩⟩ =
      [⟨.ofPayload (.sendCommand command), c, core⟩] := by
  simp only [responses, ingressSends, read, Network.requesterOf, client.isSome_living, if_true]

/-- A command of the client is answered to the client. -/
theorem responses_answer (client : net.Accepts c) (self : net.Accepts core) (command : Command) :
    responses net core ⟨.sendCommand command, some ⟨c, core⟩⟩ =
      [⟨.ofPayload (.sendText (answerText (executed net.context command))), core, c⟩] := by
  simp only [responses, answerSends, client.isSome_living, self.isSome_living, if_true]

/-- What the core sends for any other message is neither a line nor a command of the client, and no
answer to it. -/
theorem responses_silent (other : c ≠ core) {message : Message} (silent : message.IsSilent c)
    (addressed : message.AddressedTo core) :
    ∀ transfer ∈ responses net core message,
      (transfer.destination = core → transfer.routed.IsSilent c) ∧
        (transfer.destination = c → transfer.routed.isSendText = false) := by
  obtain ⟨payload, route⟩ := message
  obtain ⟨source, rfl⟩ := addressed
  intro transfer member
  cases payload with
  | recvText line =>
    -- A stranger's line goes back to the core, on behalf of the stranger or of the core itself
    have stranger : source ≠ c := by
      rintro rfl
      simp [Message.IsSilent, Message.lineOf?] at silent
    simp only [responses, ingressSends] at member
    split at member
    · contradiction
    · rw [List.mem_singleton.mp member]
      have requester : net.requesterOf core (some ⟨source, core⟩) ≠ c := by
        simp only [Network.requesterOf]
        split
        · exact stranger
        · exact Ne.symm other
      refine ⟨fun _ => ⟨rfl, ?_⟩, fun destination => absurd destination.symm other⟩
      exact if_neg requester
  | sendCommand command =>
    -- The answer goes to the one who asked
    have stranger : source ≠ c := by
      rintro rfl
      simp [Message.IsSilent, Message.orderOf?] at silent
    simp only [responses, answerSends] at member
    split at member
    · rw [List.mem_singleton.mp member]
      exact ⟨fun _ => ⟨rfl, rfl⟩, fun destination => absurd destination stranger⟩
    · contradiction
  | event text =>
    obtain ⟨channel, _, rfl⟩ := List.mem_map.mp member
    exact ⟨fun _ => ⟨rfl, rfl⟩, fun _ => rfl⟩
  | sendText payload =>
    simp only [responses, routerSends] at member
    split at member
    · contradiction
    · rw [List.mem_singleton.mp member]
      exact ⟨fun _ => ⟨rfl, rfl⟩, fun _ => rfl⟩
  | exit => contradiction
  | transportText payload => contradiction

end Dispatch

/-! ## Runs -/

/-- What may happen at the core: a client sends something, the core dispatches the oldest message,
or the shared context changes, except for its limits. -/
inductive CoreStep : Site ω CoreHandler → List (EndpointId × Payload) → List CorePass →
    Site ω CoreHandler → Prop where
  | send {site : Site ω CoreHandler} (source : EndpointId) {payload : Payload} :
      payload.isFromClient = true →
      CoreStep site [(source, payload)] []
        (site.withNetwork (site.network.send (.ofPayload payload) source site.own).2)
  | dispatch {site taken : Site ω CoreHandler} {message : Message} :
      site.take = some (message, taken) →
      CoreStep site [] [⟨taken.network.context, message⟩] (taken.dispatch behaviour message).2
  | change {site : Site ω CoreHandler} {context : Context} :
      context.limits = site.network.context.limits →
      CoreStep site [] [] (site.withNetwork { site.network with context })

/-- Any number of steps, with what was sent in them, and what the core has passed over. -/
inductive CoreRun (start : Site ω CoreHandler) :
    List (EndpointId × Payload) → List CorePass → Site ω CoreHandler → Prop where
  | nil : CoreRun start [] [] start
  | snoc {sent more : List (EndpointId × Payload)} {passes later : List CorePass}
      {site next : Site ω CoreHandler} :
      CoreRun start sent passes site → CoreStep site more later next →
      CoreRun start (sent ++ more) (passes ++ later) next

/-- What holds of a client at every point of a run. -/
structure Progress (limits : Limits) (core c : EndpointId) (before : List Message)
    (sent : List (EndpointId × Payload)) (passes : List CorePass) (site : Site ω CoreHandler) :
    Prop where
  ready : CoreReady site
  own : site.own = core
  sameLimits : site.network.context.limits = limits
  client : site.network.Accepts c
  addressed : ∀ message ∈ site.network.queueAt core, message.AddressedTo core
  order : ∃ added, site.network.queueAt c = before ++ added ∧
    InOrder limits core c (linesFrom c sent) (site.network.queueAt core) (ordersFrom c passes)
      (added.filter Message.isSendText)

section Runs

variable {limits : Limits} {core c : EndpointId} {before : List Message}
variable {sent : List (EndpointId × Payload)} {passes : List CorePass}
variable {site : Site ω CoreHandler}

/-- What a client sends takes its place at the end of the core's queue. -/
theorem InOrder.send {lines : List TextPayload} {queue answers : List Message}
    {orders : List Order} (order : InOrder limits core c lines queue orders answers)
    (source : EndpointId) {payload : Payload} (fromClient : payload.isFromClient = true) :
    InOrder limits core c (lines ++ linesFrom c [(source, payload)])
      (queue ++ [(Message.ofPayload payload).routed source core]) orders answers := by
  -- All but the client's own lines are silent, and no line is added
  have silently (silent : ((Message.ofPayload payload).routed source core).IsSilent c)
      (noLines : linesFrom c [(source, payload)] = []) :
      InOrder limits core c (lines ++ linesFrom c [(source, payload)])
        (queue ++ [(Message.ofPayload payload).routed source core]) orders answers := by
    rw [noLines, List.append_nil]
    apply order.append_silent
    intro message member
    rw [List.mem_singleton.mp member]
    exact silent
  cases payload with
  | recvText line =>
    by_cases own : source = c
    · subst own
      have one : linesFrom source [(source, .recvText line)] = [line] := by
        simp [linesFrom, Payload.line?]
      rw [one]
      exact order.send_line (if_pos rfl) rfl
    · exact silently ⟨if_neg own, rfl⟩ (by simp [linesFrom, own])
  | sendCommand command => contradiction
  | exit => contradiction
  | sendText _ | transportText _ | event _ =>
    exact silently ⟨rfl, rfl⟩ (by simp [linesFrom, Payload.line?])

theorem Progress.send (other : c ≠ core) (progress : Progress limits core c before sent passes site)
    (source : EndpointId) {payload : Payload} (fromClient : payload.isFromClient = true) :
    Progress limits core c before (sent ++ [(source, payload)]) passes
      (site.withNetwork (site.network.send (.ofPayload payload) source site.own).2) := by
  obtain ⟨ready, rfl, sameLimits, client, addressed, added, queue, order⟩ := progress
  have grown := Network.queueAt_send ready.accepts ⟨.ofPayload payload, source, site.own⟩
  have still := Network.queueAt_send client ⟨.ofPayload payload, source, site.own⟩
  rw [toward_self] at grown
  rw [toward_of_ne (Ne.symm other)] at still
  have sentNow : linesFrom c (sent ++ [(source, payload)]) =
      linesFrom c sent ++ linesFrom c [(source, payload)] := List.filterMap_append
  refine ⟨⟨ready.handlers, ready.bound, ready.accepts.send _ _ _⟩, rfl, ?_, client.send _ _ _, ?_,
    added, ?_, ?_⟩
  · exact (congrArg Context.limits (Network.context_send _ _ _ _)).trans sameLimits
  · intro message member
    have member : message ∈ site.network.queueAt site.own ++
        [(Message.ofPayload payload).routed source site.own] := grown ▸ member
    obtain member | member := List.mem_append.mp member
    · exact addressed message member
    · rw [List.mem_singleton.mp member]
      exact ⟨source, rfl⟩
  · exact still.trans ((List.append_nil _).trans queue)
  · rw [sentNow]
    exact grown ▸ order.send source fromClient

theorem InOrder.dispatch_silent {net : Network ω} {lines : List TextPayload} {message : Message}
    {queue answers : List Message} {orders : List Order} (other : c ≠ core)
    (silent : message.IsSilent c) (addressed : message.AddressedTo core)
    (order : InOrder limits core c lines (message :: queue) orders answers) :
    InOrder limits core c lines
      (queue ++ (responses net core message).filterMap (Transfer.toward core)) orders
      (answers ++ ((responses net core message).filterMap (Transfer.toward c)).filter
        Message.isSendText) := by
  have quiet : ∀ transfer ∈ responses net core message,
      (transfer.destination = core → transfer.routed.IsSilent c) ∧
        (transfer.destination = c → transfer.routed.isSendText = false) :=
    responses_silent other silent addressed
  have noAnswers : ((responses net core message).filterMap (Transfer.toward c)).filter
      Message.isSendText = [] := by
    rw [List.filter_eq_nil_iff]
    intro sent member
    obtain ⟨transfer, among, brought⟩ := List.mem_filterMap.mp member
    obtain ⟨here, rfl⟩ := of_toward_eq_some brought
    simp [(quiet transfer among).2 here]
  rw [noAnswers, List.append_nil]
  apply (order.drop_silent silent).append_silent
  intro sent member
  obtain ⟨transfer, among, brought⟩ := List.mem_filterMap.mp member
  obtain ⟨here, rfl⟩ := of_toward_eq_some brought
  exact (quiet transfer among).1 here

theorem InOrder.dispatch {net : Network ω} {lines : List TextPayload} {message : Message}
    {queue answers : List Message} {orders : List Order} (other : c ≠ core) (client : net.Accepts c)
    (self : net.Accepts core) (addressed : message.AddressedTo core)
    (order : InOrder net.context.limits core c lines (message :: queue) orders answers) :
    InOrder net.context.limits core c lines
      (queue ++ (responses net core message).filterMap (Transfer.toward core))
      (orders ++ ordersFrom c [⟨net.context, message⟩])
      (answers ++ ((responses net core message).filterMap (Transfer.toward c)).filter
        Message.isSendText) := by
  by_cases silent : message.IsSilent c
  · rw [ordersFrom_of_none silent.2, List.append_nil]
    exact order.dispatch_silent other silent addressed
  obtain ⟨payload, route⟩ := message
  obtain ⟨source, rfl⟩ := addressed
  -- Only a line or a command of the client itself is not silent
  have own : source = c := by
    apply Classical.byContradiction
    intro stranger
    apply silent
    cases payload with
    | recvText line => exact ⟨if_neg stranger, rfl⟩
    | sendCommand command => exact ⟨rfl, if_neg stranger⟩
    | _ => exact ⟨rfl, rfl⟩
  subst own
  cases payload with
  | recvText line =>
    have isLine : (⟨.recvText line, some ⟨source, core⟩⟩ : Message).lineOf? source = some line :=
      if_pos rfl
    have noOrder : (⟨.recvText line, some ⟨source, core⟩⟩ : Message).orderOf? source = none := rfl
    rw [ordersFrom_of_none noOrder, List.append_nil]
    cases read : commandOf net.context.limits line with
    | error rejection =>
      rw [responses_reject read]
      simpa using order.reject isLine noOrder read
    | ok command =>
      have isOrder : ((Message.ofPayload (.sendCommand command)).routed source core).orderOf?
          source = some command := if_pos rfl
      rw [responses_accept client read, List.filterMap_cons_some (toward_self _ _ _),
        List.filterMap_cons_none (toward_of_ne (Ne.symm other) _ _)]
      simpa using order.accept isLine noOrder rfl isOrder read
  | sendCommand command =>
    rw [responses_answer client self, List.filterMap_cons_some (toward_self _ _ _),
      List.filterMap_cons_none (toward_of_ne other _ _), List.filterMap_nil, List.append_nil]
    have replies (line : TextPayload) (read : commandOf net.context.limits line = .ok command) :=
      replies_of_commandOf read net.context core source
    have isOrder : (⟨.sendCommand command, some ⟨source, core⟩⟩ : Message).orderOf? source =
        some command := if_pos rfl
    rw [ordersFrom_of_some isOrder]
    exact order.answer rfl isOrder replies
  | _ => exact absurd ⟨rfl, rfl⟩ silent

theorem Progress.dispatch (other : c ≠ core)
    (progress : Progress limits core c before sent passes site)
    {taken : Site ω CoreHandler} {message : Message} (took : site.take = some (message, taken)) :
    Progress limits core c before sent (passes ++ [⟨taken.network.context, message⟩])
      (taken.dispatch behaviour message).2 := by
  obtain ⟨ready, rfl, rfl, client, addressed, added, queue, order⟩ := progress
  -- Taking leaves the oldest message out of the core's queue and touches nothing else
  obtain ⟨⟨oldest, network⟩, found, same⟩ := Option.map_eq_some_iff.mp took
  obtain ⟨rfl, rfl⟩ : oldest = message ∧ site.withNetwork network = taken := by simpa using same
  obtain ⟨oldestFirst, elsewhere, context⟩ := Network.queueAt_take found
  have limits : network.context.limits = site.network.context.limits :=
    congrArg Context.limits context
  have ready' : CoreReady (site.withNetwork network) :=
    ⟨ready.handlers, ready.bound, ready.accepts.take found⟩
  have client' : network.Accepts c := client.take found
  have own : (site.withNetwork network).own = site.own := rfl
  rw [oldestFirst] at addressed order
  rw [← limits] at order
  -- Then the dispatch appends to both queues what it brings there
  have atCore := queueAt_dispatch ready' oldest ready'.accepts
  have atClient := queueAt_dispatch ready' oldest client'
  have order' := order.dispatch other client' ready'.accepts (addressed oldest List.mem_cons_self)
  have orders : ordersFrom c (passes ++ [⟨network.context, oldest⟩]) =
      ordersFrom c passes ++ ordersFrom c [⟨network.context, oldest⟩] := List.filterMap_append
  rw [← orders, limits, ← List.filter_append] at order'
  refine ⟨ready'.dispatch oldest, own_dispatch ready' oldest,
    (limits_dispatch ready' oldest).trans limits, accepts_dispatch ready' oldest client', ?_,
    added ++ (responses network site.own oldest).filterMap (Transfer.toward c), ?_, ?_⟩
  · intro message member
    have member : message ∈ network.queueAt site.own ++
        (responses network site.own oldest).filterMap (Transfer.toward site.own) :=
      atCore ▸ member
    obtain member | member := List.mem_append.mp member
    · exact addressed message (List.mem_cons_of_mem _ member)
    · obtain ⟨transfer, _, brought⟩ := List.mem_filterMap.mp member
      exact addressedTo_of_toward brought
  · have before' : network.queueAt c = before ++ added := (elsewhere c other).trans queue
    rw [atClient, ← List.append_assoc, ← before']
    rfl
  · exact atCore ▸ order'

theorem Progress.step (other : c ≠ core) (progress : Progress limits core c before sent passes site)
    {more : List (EndpointId × Payload)} {later : List CorePass} {next : Site ω CoreHandler}
    (step : CoreStep site more later next) :
    Progress limits core c before (sent ++ more) (passes ++ later) next := by
  cases step with
  | send source fromClient =>
    rw [List.append_nil]
    exact progress.send other source fromClient
  | dispatch took =>
    rw [List.append_nil]
    exact progress.dispatch other took
  | change same =>
    rw [List.append_nil, List.append_nil]
    obtain ⟨ready, own, sameLimits, client, addressed, order⟩ := progress
    exact ⟨⟨ready.handlers, ready.bound, ready.accepts⟩, own, same.trans sameLimits, client,
      addressed, order⟩

theorem CoreRun.progress {start : Site ω CoreHandler} (ready : CoreReady start)
    (idle : start.network.queueAt start.own = []) (client : start.network.Accepts c)
    (other : c ≠ start.own) (run : CoreRun start sent passes site) :
    Progress start.network.context.limits start.own c (start.network.queueAt c) sent passes
      site := by
  induction run with
  | nil =>
    refine ⟨ready, rfl, rfl, client, ?_, [], (List.append_nil _).symm, ?_⟩
    · rw [idle]
      exact fun _ => nofun
    · rw [idle]
      exact .empty
  | snoc _ step progress => exact progress.step other step

/-- Whatever is sent to a core with its three handlers while it dispatches one message after the
other: once its queue is empty, the texts that it sent to a client are the answers to those of the
client's lines that are commands, one for each, in the order of the lines, and each by the pass over
its command. -/
theorem answers_in_order {start : Site ω CoreHandler} (ready : CoreReady start)
    (idle : start.network.queueAt start.own = []) (client : start.network.Accepts c)
    (other : c ≠ start.own) (run : CoreRun start sent passes site)
    (done : site.network.queueAt site.own = []) :
    ∃ added, site.network.queueAt c = start.network.queueAt c ++ added ∧
      AnsweredBy start.network.context.limits start.own c
        (accepted start.network.context.limits (linesFrom c sent)) (ordersFrom c passes)
        (added.filter Message.isSendText) := by
  obtain ⟨_, own, _, _, _, added, queue, order⟩ := run.progress ready idle client other
  rw [← own, done] at order
  exact ⟨added, queue, own ▸ order.of_queue_empty⟩

end Runs

/-! ### A run -/

/-- The core dispatches the oldest message, if there is one. -/
def dispatchOldest (site : Site ω CoreHandler) : Site ω CoreHandler :=
  match site.take with
  | none => site
  | some (message, taken) => (taken.dispatch behaviour message).2

def oldestPass (site : Site ω CoreHandler) : List CorePass :=
  match site.take with
  | none => []
  | some (message, taken) => [⟨taken.network.context, message⟩]

theorem CoreRun.send {start site : Site ω CoreHandler} {sent : List (EndpointId × Payload)}
    {passes : List CorePass} (run : CoreRun start sent passes site) (source : EndpointId)
    (line : TextPayload) :
    CoreRun start (sent ++ [(source, .recvText line)]) passes
      (site.withNetwork (site.network.send (.ofPayload (.recvText line)) source site.own).2) := by
  have next := run.snoc (.send source (rfl : (Payload.recvText line).isFromClient = true))
  rw [List.append_nil] at next
  exact next

theorem CoreRun.dispatchOldest {start site : Site ω CoreHandler}
    {sent : List (EndpointId × Payload)} {passes : List CorePass}
    (run : CoreRun start sent passes site) :
    CoreRun start sent (passes ++ oldestPass site) (dispatchOldest site) := by
  unfold AgentBus.dispatchOldest oldestPass
  split
  · rw [List.append_nil]
    exact run
  · next took =>
    have next := run.snoc (.dispatch took)
    rw [List.append_nil] at next
    exact next

def coreAndClients : Site Unit CoreHandler where
  mailbox :=
    { endpoint := ⟨0⟩
      chain :=
        { entries := [⟨⟨1⟩, true, .ingress⟩, ⟨⟨2⟩, true, .operations⟩, ⟨⟨3⟩, true, .router⟩]
          bound := true, nextId := 4 } }
  network := { endpoints := [{ name := "core" }, { name := "client" }, { name := "other" }] }

def pingLine : TextPayload := { text := "AT = ( 7, \"ping\" ) ", source := some "TTY=é" }

def echoLine : TextPayload := { text := "AT = ( 9, \"echo\", 1 )" }

/-- A client sends a command, a line that is none, and another command, with a command of another
client in between. -/
def conversation : List (EndpointId × Payload) :=
  [(⟨1⟩, .recvText pingLine), (⟨2⟩, .recvText { text := "AT = ( 7, \"quit\" )" }),
    (⟨1⟩, .recvText { text := "AT = ( 8 )" }), (⟨1⟩, .recvText echoLine)]

theorem answers_in_order_conversation :
    accepted {} (linesFrom ⟨1⟩ conversation) = [pingLine, echoLine] ∧
      ∃ passes site, CoreRun coreAndClients conversation passes site ∧
        ∃ added, site.network.queueAt ⟨1⟩ = coreAndClients.network.queueAt ⟨1⟩ ++ added ∧
          AnsweredBy {} ⟨0⟩ ⟨1⟩ (accepted {} (linesFrom ⟨1⟩ conversation)) (ordersFrom ⟨1⟩ passes)
            (added.filter Message.isSendText) := by
  have ready : CoreReady coreAndClients := ⟨rfl, rfl, { name := "core" }, rfl, rfl, rfl⟩
  have client : coreAndClients.network.Accepts ⟨1⟩ := ⟨{ name := "client" }, rfl, rfl, rfl⟩
  -- The core has accepted the first command when the other lines come
  have start : CoreRun coreAndClients [] [] coreAndClients := .nil
  have first := start.send ⟨1⟩ pingLine
  have sent := ((first.dispatchOldest.send ⟨2⟩ { text := "AT = ( 7, \"quit\" )" }).send ⟨1⟩
    { text := "AT = ( 8 )" }).send ⟨1⟩ echoLine
  have run : CoreRun coreAndClients conversation _ _ :=
    sent.dispatchOldest.dispatchOldest.dispatchOldest.dispatchOldest.dispatchOldest.dispatchOldest
  refine ⟨by decide +kernel, _, _, run, ?_⟩
  exact answers_in_order ready rfl client (by decide) run (by decide +kernel)

end AgentBus
