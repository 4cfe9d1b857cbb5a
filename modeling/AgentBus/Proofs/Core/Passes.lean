import AgentBus.Proofs.Core.Answers
import AgentBus.Proofs.Mailbox.LoopStep

/-!
# A core with one client, one request at a time

The core of one client serves while the client and others act between any two of its requests. Its
queue holds `Item`s: the lines that the client sent, and the commands that lines became.
`Work.Holds` says at which point of its program the core is, and what it has in hand there: an item
that it has not begun to work on, a command that it has read from a line and not yet put in its
queue, or an answer that it has not sent yet. What it has still to do is `Hand.todo`, and a step of
the core takes from the head of that (`Proceeds`, `Loop.coreGoes_step`).
-/

namespace AgentBus

open CoreHandler

variable {ω : Type}

/-! ## Programs -/

/-- The core's handlers when they are ready. -/
def coreChain : Chain CoreHandler where
  entries := [⟨⟨1⟩, true, .ingress⟩, ⟨⟨2⟩, true, .operations⟩, ⟨⟨3⟩, true, .router⟩]
  bound := true
  nextId := 4

/-- The end of a pass over a line or a command: the router finds nothing to forward. -/
def settling : BusProgram ω (Nat × Chain CoreHandler) :=
  .ask BusRequest.context fun _ => .done (3, coreChain)

/-- A command on its way from the core to itself, on behalf of its client. -/
def ordering (core client : EndpointId) (command : Command) :
    BusProgram ω (Nat × Chain CoreHandler) :=
  .ask (BusRequest.send (.ofPayload (.sendCommand command)) client core) fun _ => settling

/-- An answer on its way to the client. -/
def replying (core client : EndpointId) (text : TextPayload) :
    BusProgram ω (Nat × Chain CoreHandler) :=
  .ask (BusRequest.send (.ofPayload (.sendText text)) core client) fun _ => settling

/-- An accepted line: the core looks whether its client is still there. -/
def accepting (core client : EndpointId) (command : Command) :
    BusProgram ω (Nat × Chain CoreHandler) :=
  .ask (BusRequest.look client) fun (source : Option EndpointInfo) =>
    ordering core (if source.isSome then client else core) command

/-- An answer whose client is still there: the core looks at its own endpoint. -/
def signing (core client : EndpointId) (text : TextPayload) :
    BusProgram ω (Nat × Chain CoreHandler) :=
  -- The sender is the core itself, whatever it finds
  .ask (BusRequest.look core) fun (own : Option EndpointInfo) =>
    replying (if own.isSome then core else core) client text

/-- An answer: the core looks whether its client is still there. -/
def returning (core client : EndpointId) (text : TextPayload) :
    BusProgram ω (Nat × Chain CoreHandler) :=
  .ask (BusRequest.look client) fun (source : Option EndpointInfo) =>
    if source.isSome then signing core client text else settling

/-- An answered command that asks for a shutdown. -/
def quitting (core client : EndpointId) (text : TextPayload) :
    BusProgram ω (Nat × Chain CoreHandler) :=
  .ask (BusRequest.change .requestShutdown) fun _ => returning core client text

def Command.quits (command : Command) : Bool :=
  Operation.ofName? command.operation = some .quit

section Offers

variable {core client : EndpointId}

theorem offer_line (line : TextPayload) :
    (coreChain.offer behaviour core ⟨.recvText line, some ⟨client, core⟩⟩ : BusProgram ω _) =
      .ask BusRequest.context fun (context : Context) =>
        match commandOf context.limits line with
        | .error _ => settling
        | .ok command => accepting core client command := by
  refine congrArg (Program.ask (S := busSignature ω) BusRequest.context) (funext fun context => ?_)
  change Context at context
  have limits : (Option.map Context.limits (some context)).getD {} = context.limits := rfl
  unfold commandOf
  dsimp only [Chain.offerEntries, collect, Program.bind, Program.left]
  rw [limits]
  cases Command.ofText (Text.trimEnd line.text) line.source context.limits with
  | error rejection => rfl
  | ok command => rfl

theorem quit_bound (id : HandlerId) (command : Command) :
    (quit ⟨id, core, true⟩ command : BusProgram ω Unit) =
      if command.quits then .ask (BusRequest.change .requestShutdown) fun _ => .done ()
      else .done () := by
  by_cases quits : Operation.ofName? command.operation = some .quit
  · rw [quit, if_pos ⟨quits, rfl⟩, Command.quits, decide_eq_true quits, if_pos rfl]
    rfl
  · rw [quit, if_neg fun both => quits both.1, Command.quits, decide_eq_false quits,
      if_neg Bool.false_ne_true]

theorem returning_eq {text : TextPayload}
    {next : Option EndpointInfo → BusProgram ω (Nat × Chain CoreHandler)}
    (gone : next none = settling) (there : ∀ info, next (some info) = signing core client text) :
    .ask (BusRequest.look client) next = returning core client text := by
  refine congrArg (Program.ask (S := busSignature ω) (BusRequest.look client))
    (funext fun source => ?_)
  change Option EndpointInfo at source
  cases source with
  | none => exact gone
  | some info => exact there info

theorem offer_command (command : Command) :
    (coreChain.offer behaviour core ⟨.sendCommand command, some ⟨client, core⟩⟩ :
        BusProgram ω _) =
      .ask BusRequest.context fun (context : Context) =>
        if command.quits then quitting core client (answerText (executed context command))
        else returning core client (answerText (executed context command)) := by
  refine congrArg (Program.ask (S := busSignature ω) BusRequest.context) (funext fun context => ?_)
  change Context at context
  have scope : Chain.scope core coreChain.bound ⟨⟨2⟩, true, operations⟩ = ⟨⟨2⟩, core, true⟩ := rfl
  dsimp only [Chain.offerEntries, collect, Program.bind, Program.left]
  rw [scope, quit_bound]
  cases command.quits with
  | false => exact returning_eq rfl fun _ => rfl
  | true =>
    refine congrArg (Program.ask (S := busSignature ω) (BusRequest.change .requestShutdown)) ?_
    exact funext fun _ => returning_eq rfl fun _ => rfl

end Offers

/-! ## What there is to be done -/

/-- What waits in the queue of the core. -/
inductive Item where
  | line (text : TextPayload)
  | order (command : Command)

namespace Item

def payload : Item → Payload
  | .line text => .recvText text
  | .order command => .sendCommand command

def message (core client : EndpointId) (item : Item) : Message :=
  ⟨item.payload, some ⟨client, core⟩⟩

def order? : Item → Option Command
  | .line _ => none
  | .order command => some command

/-- The command that a line will become. -/
def accepted? (limits : Limits) : Item → Option Command
  | .line text => (commandOf limits text).toOption
  | .order _ => none

theorem isExit_message (core client : EndpointId) (item : Item) :
    (item.message core client).isExit = false := by
  cases item with
  | line text => rfl
  | order command => rfl

end Item

/-- A command with the text that answers it. -/
structure Reply where
  command : Command
  text : TextPayload

namespace Reply

/-- The answer to a command by the shared context. -/
def of (context : Context) (command : Command) : Reply :=
  ⟨command, answerText (executed context command)⟩

def message (core client : EndpointId) (reply : Reply) : Message :=
  ⟨.sendText reply.text, some ⟨core, client⟩⟩

end Reply

/-- What the core has taken up: an item before the one that is next in the queue, a command that it
is about to put behind all items, and an answer that it is about to send. -/
structure Hand where
  ahead : List Item := []
  accepted : List Command := []
  replies : List Reply := []

namespace Hand

/-- The commands that are still to be answered, in the order in which that will happen: what is in
the queue as a line has to pass it once more. -/
def todo (limits : Limits) (hand : Hand) (items : List Item) : List Command :=
  (hand.ahead ++ items).filterMap Item.order? ++ hand.accepted ++
    (hand.ahead ++ items).filterMap (Item.accepted? limits)

/-- A line takes its place behind all that there is to be done. -/
theorem todo_line (limits : Limits) (hand : Hand) (items : List Item) (text : TextPayload) :
    hand.todo limits (items ++ [.line text]) =
      hand.todo limits items ++ (commandOf limits text).toOption.toList := by
  simp only [todo, ← List.append_assoc, List.filterMap_append]
  cases read : (commandOf limits text).toOption with
  | none => simp [Item.order?, Item.accepted?, read]
  | some command => simp [Item.order?, Item.accepted?, read]

end Hand

/-- At which point of its program the core is, and what it has taken up there. -/
inductive Work.Holds (core client : EndpointId) : Work ω CoreHandler → Hand → Prop where
  | free : Holds core client .free {}
  | taken (item : Item) : Holds core client (.taken (item.message core client)) { ahead := [item] }
  | begun (item : Item) :
      Holds core client
        (.offering (item.message core client)
          (coreChain.offer behaviour core (item.message core client)))
        { ahead := [item] }
  | accepting (item : Item) (command : Command) :
      Holds core client (.offering (item.message core client) (accepting core client command))
        { accepted := [command] }
  | ordering (item : Item) (command : Command) :
      Holds core client (.offering (item.message core client) (ordering core client command))
        { accepted := [command] }
  | quitting (item : Item) (reply : Reply) : reply.command.quits = true →
      Holds core client (.offering (item.message core client) (quitting core client reply.text))
        { replies := [reply] }
  | returning (item : Item) (reply : Reply) :
      Holds core client (.offering (item.message core client) (returning core client reply.text))
        { replies := [reply] }
  | signing (item : Item) (reply : Reply) :
      Holds core client (.offering (item.message core client) (signing core client reply.text))
        { replies := [reply] }
  | replying (item : Item) (reply : Reply) :
      Holds core client (.offering (item.message core client) (replying core client reply.text))
        { replies := [reply] }
  | settling (item : Item) :
      Holds core client (.offering (item.message core client) settling) {}
  | settled (item : Item) :
      Holds core client (.offering (item.message core client) (.done (3, coreChain))) {}

/-! ## The two queues -/

/-- The core and its client both take messages, and this is what waits in their queues. -/
structure Between (core client : EndpointId) (net : Network ω) (items : List Item)
    (letters : List Message) : Prop where
  serves : net.Accepts core
  attends : net.Accepts client
  items : net.queueAt core = items.map (Item.message core client)
  letters : net.queueAt client = letters

namespace Between

variable {core client : EndpointId} {net net' : Network ω} {items : List Item}
variable {letters : List Message}

theorem of_endpoints (between : Between core client net items letters)
    (same : net'.endpoints = net.endpoints) : Between core client net' items letters := by
  obtain ⟨context, endpoints, handles, output⟩ := net
  obtain rfl : net'.endpoints = endpoints := same
  exact ⟨between.serves, between.attends, between.items, between.letters⟩

/-- What the client sends to the core takes its place behind all items. -/
theorem item (between : Between core client net items letters) (other : client ≠ core)
    (item : Item) :
    Between core client (net.send (.ofPayload item.payload) client core).2 (items ++ [item])
      letters := by
  refine ⟨between.serves.send _ _ _, between.attends.send _ _ _, ?_, ?_⟩
  · have grown := Network.queueAt_send between.serves ⟨.ofPayload item.payload, client, core⟩
    rw [toward_self, between.items] at grown
    rw [List.map_append]
    exact grown
  · have still := Network.queueAt_send between.attends ⟨.ofPayload item.payload, client, core⟩
    rw [toward_of_ne (Ne.symm other), between.letters] at still
    exact still.trans (List.append_nil _)

/-- What the core sends to the client takes its place behind all letters. -/
theorem letter (between : Between core client net items letters) (other : client ≠ core)
    (payload : Payload) :
    Between core client (net.send (.ofPayload payload) core client).2 items
      (letters ++ [⟨payload, some ⟨core, client⟩⟩]) := by
  refine ⟨between.serves.send _ _ _, between.attends.send _ _ _, ?_, ?_⟩
  · have still := Network.queueAt_send between.serves ⟨.ofPayload payload, core, client⟩
    rw [toward_of_ne other, between.items] at still
    exact still.trans (List.append_nil _)
  · have grown := Network.queueAt_send between.attends ⟨.ofPayload payload, core, client⟩
    rw [toward_self, between.letters] at grown
    exact grown

theorem recordDispatched (between : Between core client net items letters) (id : EndpointId) :
    Between core client (net.recordDispatched id) items letters :=
  ⟨between.serves.recordDispatched id, between.attends.recordDispatched id,
    (Network.queueAt_recordDispatched net id core).trans between.items,
    (Network.queueAt_recordDispatched net id client).trans between.letters⟩

/-- The core takes the oldest item. -/
theorem take (between : Between core client net items letters) (other : client ≠ core)
    {message : Message} (taken : net.take core = some (message, net')) :
    ∃ item rest, items = item :: rest ∧ message = item.message core client ∧
      Between core client net' rest letters := by
  obtain ⟨queue, elsewhere, -⟩ := Network.queueAt_take taken
  rw [between.items] at queue
  obtain ⟨item, rest, rfl, oldest, later⟩ := List.map_eq_cons_iff.mp queue
  exact ⟨item, rest, rfl, oldest.symm, between.serves.take taken, between.attends.take taken,
    later.symm, (elsewhere client other).trans between.letters⟩

/-- The client takes the oldest letter. -/
theorem open_letter (between : Between core client net items letters) (other : client ≠ core)
    {message : Message} (taken : net.take client = some (message, net')) :
    ∃ rest, letters = message :: rest ∧ Between core client net' items rest := by
  obtain ⟨queue, elsewhere, -⟩ := Network.queueAt_take taken
  rw [between.letters] at queue
  exact ⟨_, queue, between.serves.take taken, between.attends.take taken,
    (elsewhere core (Ne.symm other)).trans between.items, rfl⟩

end Between

/-! ## Steps -/

/-- The core has begun a pass over a command, and nothing of it is done yet. The operations will
answer the command by the shared context that the next request returns. -/
def Work.Answers (chain : Chain CoreHandler) (core : EndpointId) (command : Command)
    (work : Work ω CoreHandler) : Prop :=
  ∃ route, work = .offering ⟨.sendCommand command, route⟩
    (chain.offer behaviour core ⟨.sendCommand command, route⟩)

/-- The answers that a step of the core produces. -/
inductive Work.Tells (chain : Chain CoreHandler) (core : EndpointId) (context : Context)
    (work : Work ω CoreHandler) : List Reply → Prop where
  | nothing : (∀ command, ¬ work.Answers chain core command) → Tells chain core context work []
  | answer {command : Command} : work.Answers chain core command →
      Tells chain core context work [.of context command]

section Steps

variable {core client : EndpointId} {limits : Limits}

/-- A pass that answers a command begins like this. -/
theorem Work.pass_of_answers {item : Item} {command : Command}
    {pass : BusProgram ω (Nat × Chain CoreHandler)}
    (answers : (Work.offering (item.message core client) pass).Answers coreChain core command) :
    item = .order command ∧ pass = .ask BusRequest.context fun (context : Context) =>
      if command.quits then quitting core client (answerText (executed context command))
      else returning core client (answerText (executed context command)) := by
  obtain ⟨route, same⟩ := answers
  obtain ⟨message, rfl⟩ := Work.offering.inj same
  cases item with
  | line text => exact nomatch (Message.mk.inj message).1
  | order other =>
    obtain ⟨payload, rfl⟩ := Message.mk.inj message
    obtain rfl := Payload.sendCommand.inj payload
    exact ⟨rfl, offer_command other⟩

theorem Work.not_answers_ask {item : Item} {request : BusRequest ω}
    {next : request.Response → BusProgram ω (Nat × Chain CoreHandler)}
    (other : request ≠ .context) (command : Command) :
    ¬ (Work.offering (item.message core client) (.ask request next)).Answers coreChain core
      command :=
  fun answers => other (Program.ask.inj (pass_of_answers answers).2).1

theorem Work.not_answers_settling {item : Item} (command : Command) :
    ¬ (Work.offering (ω := ω) (item.message core client) settling).Answers coreChain core
      command := by
  intro answers
  obtain ⟨-, same⟩ := pass_of_answers answers
  -- Both passes ask for the context first, but only this one is done then
  have next := congrFun (eq_of_heq (Program.ask.inj same).2) ({} : Context)
  split at next
  · exact nomatch next
  · exact nomatch next

/-- What a step of the core does. Of the commands that are to be answered, the first are the ones
whose answers it produces, and of the answers that are to be sent, the first are those that it
sends. -/
structure Proceeds (core client : EndpointId) (net : Network ω) (work : Work ω CoreHandler)
    (hand : Hand) (items : List Item) (letters : List Message) (net' : Network ω)
    (work' : Work ω CoreHandler) (hand' : Hand) (items' : List Item) (told sent : List Reply) :
    Prop where
  holds : work'.Holds core client hand'
  between : Between core client net' items' (letters ++ sent.map (Reply.message core client))
  tells : work.Tells coreChain core net.context told
  todo : hand.todo net.context.limits items =
    told.map Reply.command ++ hand'.todo net.context.limits items'
  replies : hand.replies ++ told = sent ++ hand'.replies
  context : net'.context = net.context ∨
    net'.context = net.context.apply .requestShutdown ∧
      ∃ reply ∈ hand.replies, reply.command.quits = true
  output : net'.output = net.output

/-- A step by which nothing changes but the point of the program. -/
theorem Proceeds.same {net net' : Network ω} {work work' : Work ω CoreHandler} {hand : Hand}
    {items : List Item} {letters : List Message} (holds : work'.Holds core client hand)
    (between : Between core client net' items letters)
    (quiet : ∀ command, ¬ work.Answers coreChain core command)
    (context : net'.context = net.context) (output : net'.output = net.output) :
    Proceeds core client net work hand items letters net' work' hand items [] [] :=
  ⟨holds, by rw [List.map_nil, List.append_nil]; exact between, .nothing quiet, rfl,
    List.append_nil _, .inl context, output⟩

theorem Network.Accepts.look {net : Network ω} {e : EndpointId} (accepts : net.Accepts e) :
    ∃ info : EndpointInfo, (Network.perform (.look e) net).1 = some info := by
  obtain ⟨endpoint, found⟩ := Option.isSome_iff_exists.mp accepts.isSome_living
  exact ⟨endpoint.info, congrArg (Option.map Endpoint.info) found⟩

theorem Loop.step_look {mode : LoopMode} {message : Message} {mailbox : Mailbox CoreHandler}
    {net : Network ω} {e : EndpointId} {info : EndpointInfo}
    {next : Option EndpointInfo → BusProgram ω (Nat × Chain CoreHandler)}
    (there : (Network.perform (.look e) net).1 = some info) :
    Loop.step behaviour ⟨mode, .offering message (.ask (.look e) next)⟩ ⟨mailbox, net⟩ =
      .working ⟨mode, .offering message (next (some info))⟩ ⟨mailbox, net⟩ := by
  rw [← there]
  rfl

theorem Loop.step_line (net : Network ω) (text : TextPayload) :
    Loop.step behaviour
        ⟨.serving, .offering ((Item.line text).message core client)
          (coreChain.offer behaviour core ((Item.line text).message core client))⟩
        ⟨⟨core, coreChain⟩, net⟩ =
      .working ⟨.serving, .offering ((Item.line text).message core client)
        (match commandOf net.context.limits text with
          | .error _ => settling
          | .ok command => accepting core client command)⟩ ⟨⟨core, coreChain⟩, net⟩ := by
  rw [Item.message, Item.payload, offer_line]
  rfl

theorem Loop.step_order (net : Network ω) (command : Command) :
    Loop.step behaviour
        ⟨.serving, .offering ((Item.order command).message core client)
          (coreChain.offer behaviour core ((Item.order command).message core client))⟩
        ⟨⟨core, coreChain⟩, net⟩ =
      .working ⟨.serving, .offering ((Item.order command).message core client)
        (if command.quits then quitting core client (Reply.of net.context command).text
          else returning core client (Reply.of net.context command).text)⟩
        ⟨⟨core, coreChain⟩, net⟩ := by
  rw [Item.message, Item.payload, offer_command]
  rfl

inductive CoreGoes (core client : EndpointId) (net : Network ω) (work : Work ω CoreHandler)
    (hand : Hand) (items : List Item) (letters : List Message) : LoopStep ω CoreHandler → Prop where
  | waiting : CoreGoes core client net work hand items letters .waiting
  | working {net' : Network ω} {work' : Work ω CoreHandler} {hand' : Hand} {items' : List Item}
      {told sent : List Reply} :
      Proceeds core client net work hand items letters net' work' hand' items' told sent →
      CoreGoes core client net work hand items letters
        (.working ⟨.serving, work'⟩ ⟨⟨core, coreChain⟩, net'⟩)

section Cases

variable {net : Network ω} {hand : Hand} {items : List Item} {letters : List Message}

theorem Between.still (between : Between core client net items letters) :
    Between core client net items
      (letters ++ ([] : List Reply).map (Reply.message core client)) := by
  rw [List.map_nil, List.append_nil]
  exact between

theorem coreGoes_free (other : client ≠ core) (between : Between core client net items letters) :
    CoreGoes core client net .free {} items letters
      (Loop.look .serving ⟨⟨core, coreChain⟩, net⟩) := by
  have up : (⟨⟨core, coreChain⟩, net⟩ : Site ω CoreHandler).isTearingDown = false :=
    between.serves.not_isTearingDown
  simp only [Loop.look, Site.next, up, Bool.false_eq_true, if_false]
  cases took : (⟨⟨core, coreChain⟩, net⟩ : Site ω CoreHandler).take with
  | none => exact .waiting
  | some oldest =>
    obtain ⟨⟨message, net'⟩, taken, rfl⟩ := Option.map_eq_some_iff.mp took
    obtain ⟨item, rest, rfl, rfl, between'⟩ := between.take other taken
    refine .working ⟨.taken item, between'.still, .nothing ?_, rfl, rfl, ?_, ?_⟩
    · rintro command ⟨_, same⟩
      cases same
    · exact .inl (Network.queueAt_take taken).2.2
    · exact Network.output_take taken

theorem proceeds_line (between : Between core client net items letters) (text : TextPayload)
    {work' : Work ω CoreHandler} {hand' : Hand} (holds : work'.Holds core client hand')
    (done : hand'.ahead = [])
    (read : hand'.accepted = (commandOf net.context.limits text).toOption.toList)
    (nothing : hand'.replies = []) :
    Proceeds core client net
      (.offering ((Item.line text).message core client)
        (coreChain.offer behaviour core ((Item.line text).message core client)))
      { ahead := [.line text] } items letters net work' hand' items [] [] where
  holds := holds
  between := between.still
  tells := .nothing fun _ answers => nomatch (Work.pass_of_answers answers).1
  todo := by
    obtain ⟨ahead, accepted, replies⟩ := hand'
    obtain rfl : ahead = [] := done
    obtain rfl : accepted = (commandOf net.context.limits text).toOption.toList := read
    cases read : (commandOf net.context.limits text).toOption with
    | none => simp [Hand.todo, List.filterMap_cons, Item.order?, Item.accepted?, read]
    | some command => simp [Hand.todo, List.filterMap_cons, Item.order?, Item.accepted?, read]
  replies := nothing.symm
  context := .inl rfl
  output := rfl

theorem proceeds_order (between : Between core client net items letters) (command : Command)
    {work' : Work ω CoreHandler}
    (holds : work'.Holds core client { replies := [.of net.context command] }) :
    Proceeds core client net
      (.offering ((Item.order command).message core client)
        (coreChain.offer behaviour core ((Item.order command).message core client)))
      { ahead := [.order command] } items letters net work' { replies := [.of net.context command] }
      items [.of net.context command] [] where
  holds := holds
  between := between.still
  tells := .answer ⟨_, rfl⟩
  todo := by simp [Hand.todo, List.filterMap_cons, Item.order?, Item.accepted?, Reply.of]
  replies := rfl
  context := .inl rfl
  output := rfl

end Cases

theorem Loop.coreGoes_step (other : client ≠ core) {net : Network ω}
    {work : Work ω CoreHandler} {hand : Hand} {items : List Item} {letters : List Message}
    (holds : work.Holds core client hand) (between : Between core client net items letters) :
    CoreGoes core client net work hand items letters
      (Loop.step behaviour ⟨.serving, work⟩ ⟨⟨core, coreChain⟩, net⟩) := by
  have up : net.isTearingDown core = false := between.serves.not_isTearingDown
  cases holds with
  | free => exact coreGoes_free other between
  | taken item =>
    have begun : Loop.step behaviour ⟨.serving, .taken (item.message core client)⟩
        ⟨⟨core, coreChain⟩, net⟩ = .working ⟨.serving, .offering (item.message core client)
          (coreChain.offer behaviour core (item.message core client))⟩ ⟨⟨core, coreChain⟩, net⟩ :=
      if_neg (ne_true_of_eq_false up)
    rw [begun]
    refine .working (.same (.begun item) between ?_ rfl rfl)
    rintro command ⟨_, same⟩
    exact nomatch same
  | begun item =>
    cases item with
    | line text =>
      rw [Loop.step_line]
      cases read : commandOf net.context.limits text with
      | error rejection =>
        exact .working (proceeds_line between text (.settling _) rfl (by rw [read]; rfl) rfl)
      | ok command =>
        exact .working
          (proceeds_line between text (.accepting _ command) rfl (by rw [read]; rfl) rfl)
    | order command =>
      rw [Loop.step_order]
      split
      · next quits => exact .working (proceeds_order between command (.quitting _ _ quits))
      · exact .working (proceeds_order between command (.returning _ _))
  | accepting item command =>
    -- The client still takes messages, so the core finds it there
    obtain ⟨info, there⟩ := between.attends.look
    rw [accepting, Loop.step_look there]
    exact .working (.same (.ordering item command) between (Work.not_answers_ask nofun) rfl rfl)
  | ordering item command =>
    -- The command goes to the end of the queue, and by then it is no line any more
    refine .working ⟨.settling item, (between.item other (.order command)).still,
      .nothing (Work.not_answers_ask nofun), ?_, rfl, ?_, ?_⟩
    · simp [Hand.todo, Item.order?, Item.accepted?]
    · exact .inl (Network.context_send net _ _ _)
    · exact Network.output_send net _ _ _
  | quitting item reply quits =>
    exact .working ⟨.returning item reply, between.still.of_endpoints rfl,
      .nothing (Work.not_answers_ask nofun), rfl, rfl,
      .inr ⟨rfl, reply, List.mem_cons_self, quits⟩, rfl⟩
  | returning item reply =>
    obtain ⟨info, there⟩ := between.attends.look
    rw [returning, Loop.step_look there]
    exact .working (.same (.signing item reply) between (Work.not_answers_ask nofun) rfl rfl)
  | signing item reply =>
    obtain ⟨info, there⟩ := between.serves.look
    rw [signing, Loop.step_look there]
    exact .working (.same (.replying item reply) between (Work.not_answers_ask nofun) rfl rfl)
  | replying item reply =>
    -- The answer leaves the core's hand for the client's queue
    have between' : Between core client _ items
        (letters ++ [reply].map (Reply.message core client)) :=
      between.letter other (.sendText reply.text)
    refine .working ⟨.settling item, between', .nothing (Work.not_answers_ask nofun), rfl, rfl,
      ?_, ?_⟩
    · exact .inl (Network.context_send net _ _ _)
    · exact Network.output_send net _ _ _
  | settling item =>
    exact .working (.same (.settled item) between Work.not_answers_settling rfl rfl)
  | settled item =>
    -- No item makes the core leave its loop
    have settled : Loop.step behaviour
        ⟨.serving, .offering (item.message core client) (.done (3, coreChain))⟩
        ⟨⟨core, coreChain⟩, net⟩ =
          .working ⟨.serving, .free⟩ ⟨⟨core, coreChain⟩, net.recordDispatched core⟩ := by
      refine if_neg ?_
      rw [Item.isExit_message]
      exact fun exits => nomatch exits.2
    rw [settled]
    refine .working (.same .free (between.recordDispatched core) ?_ rfl rfl)
    exact fun command answers => nomatch (Work.pass_of_answers answers).2

end Steps

end AgentBus
