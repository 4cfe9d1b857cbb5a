import AgentBus.CommandLine.Session
import AgentBus.Proofs.Core.Passes
import AgentBus.Proofs.Worker.Touch

/-!
# The thread of the console

The console hands the lines of its input to the core and prints the answers that arrive, until it
gets an exit message. `ThreadPhase.Reads` says at which point of its program it is, which lines it
still has to hand over, and which letter it has taken out of its queue but not printed yet. What it
does at one step is `ConsoleGoes`.
-/

namespace AgentBus

open CommandLine (printing)

/-! ## Handing over -/

namespace Console

/-- A line with the tag of the only peer. -/
def tagged (line : String) : TextPayload :=
  ⟨line, some "CONSOLE=stdin"⟩

/-- The lines of an input that are handed over. -/
def spoken (lines : List String) : List String :=
  lines.filter fun line => !Text.isBlankLine line

/-- The command that a line is. -/
def command? (limits : Limits) (line : String) : Option Command :=
  (commandOf limits (tagged line)).toOption

/-- The commands among the lines of an input, in order. -/
def commands (limits : Limits) (lines : List String) : List Command :=
  (spoken lines).filterMap (command? limits)

/-- What the lines come to that are handed over takes its place behind all that there is to be
done. -/
theorem todo_handed (limits : Limits) (hand : Hand) (items : List Item) (handed : List String) :
    hand.todo limits (items ++ handed.map fun line => .line (tagged line)) =
      hand.todo limits items ++ handed.filterMap (command? limits) := by
  induction handed generalizing items with
  | nil => rw [List.map_nil, List.filterMap_nil, List.append_nil, List.append_nil]
  | cons line rest ih =>
    rw [List.map_cons, List.append_cons, ih, Hand.todo_line, List.append_assoc, ← command?,
      List.filterMap_cons]
    cases command? limits line with
    | none => rfl
    | some command => rfl

/-- The only peer may send. -/
def Admits (console : ConsoleConfig) : Prop :=
  console.allowFrom = [] ∨ address ∈ console.allowFrom

variable {ω : Type} {console : ConsoleConfig} {core client : EndpointId} {limits : Limits}

theorem allows_address (admits : Admits console) (post : Post) :
    (channel console post limits).allows address = true := by
  have first : address ∈ Channel.identities address := List.mem_cons_self
  obtain none | listed := admits
  · simp [Channel.allows, channel, Channel.make, none]
  · have known : (Channel.identities address).any console.allowFrom.contains = true :=
      List.any_eq_true.mpr ⟨address, first, List.contains_iff_mem.mpr listed⟩
    simp [Channel.allows, channel, Channel.make, known]

theorem fold_address :
    SourceTag.fold (channelName.toUpper ++ "=" ++ address) = "CONSOLE=stdin" := by
  decide +kernel

theorem ofChannel?_address {limit : Nat} (wide : 13 ≤ limit) :
    SourceTag.ofChannel? channelName.toUpper address limit = some ⟨"CONSOLE=stdin"⟩ := by
  have length : "CONSOLE=stdin".length = 13 := by decide +kernel
  have filled : "CONSOLE=stdin".toList ≠ [] := by decide +kernel
  rw [SourceTag.ofChannel?, SourceTag.ofText?, fold_address]
  refine if_neg ?_
  rintro (empty | long)
  · exact filled empty
  · rw [length] at long
    exact absurd wide (Nat.not_le.mpr long)

/-- Handing a line over is one send, whatever becomes of it. -/
theorem run_feed (admits : Admits console) (wide : 13 ≤ limits.maxSourceLength.toNat)
    (line : String) (net : Network ω) :
    ((feed (channel console ⟨client, core⟩ limits) line).run Network.perform net).2 =
      (net.send (.ofPayload (.recvText (tagged line))) client core).2 := by
  have found := ofChannel?_address wide
  rw [feed, Channel.handOver, if_pos (allows_address admits _)]
  simp only [channel, Channel.make, found]
  simp only [BusProgram.send, Program.bind, Program.run, Network.perform, tagged]
  -- The console takes no notice of what became of the line
  generalize net.send (.ofPayload (.recvText ⟨line, some "CONSOLE=stdin"⟩)) client core = sent
  obtain ⟨delivery, net'⟩ := sent
  cases delivery with
  | queued => rfl
  | dropped => rfl

end Console

/-! ## Printing -/

/-- The console's handler when it is ready. -/
def writerChain : Chain Unit where
  entries := [⟨⟨1⟩, true, ()⟩]
  bound := true
  nextId := 2

/-- What is printed of an answer. -/
def Reply.printed (reply : Reply) : String :=
  reply.text.text ++ "\n"

/-- The letters from the core: answers, and then an exit message or none. -/
structure Letters (core client : EndpointId) (letters : List Message) (waiting : List Reply)
    (farewell : List Message) : Prop where
  eq : letters = waiting.map (Reply.message core client) ++ farewell
  farewell : farewell = [] ∨ farewell = [⟨.exit, some ⟨core, client⟩⟩]

/-- At which point of its program the loop of the console is, and what it has taken but not printed
yet. -/
inductive Work.Prints (core client : EndpointId) : Work String Unit → List Message → Prop where
  | free : Prints core client .free []
  | taken (message : Message) : Prints core client (.taken message) [message]
  | begun (message : Message) :
      Prints core client (.offering message (writerChain.offer printing client message)) [message]
  | printed (reply : Reply) :
      Prints core client (.offering (reply.message core client) (.done (1, writerChain))) []

/-- What a step of the console's loop leads to: of the answers that wait, the first are those that
it prints. -/
inductive WriterGoes (core client : EndpointId) (net : Network String) (items : List Item)
    (waiting : List Reply) (farewell : List Message) : LoopStep String Unit → Prop where
  | waiting : WriterGoes core client net items waiting farewell .waiting
  | working {net' : Network String} {work : Work String Unit} {held queue : List Message}
      {said rest : List Reply} : work.Prints core client held →
      Between core client net' items queue → waiting = said ++ rest →
      Letters core client (held ++ queue) rest farewell →
      net'.output.toList = net.output.toList ++ said.map Reply.printed →
      net'.context = net.context →
      WriterGoes core client net items waiting farewell
        (.working ⟨.serving, work⟩ ⟨⟨client, writerChain⟩, net'⟩)
  | exited : waiting = [] → farewell ≠ [] →
      WriterGoes core client net items waiting farewell
        (.ended .exited ⟨⟨client, writerChain⟩, net.recordDispatched client⟩)

section Steps

variable {core client : EndpointId} {net : Network String} {items : List Item}
variable {held queue : List Message} {waiting : List Reply} {farewell : List Message}

/-- A step by which nothing is printed. -/
theorem WriterGoes.working_same {net' : Network String} {work : Work String Unit}
    (prints : work.Prints core client held) (between : Between core client net' items queue)
    (letters : Letters core client (held ++ queue) waiting farewell)
    (output : net'.output = net.output) (context : net'.context = net.context) :
    WriterGoes core client net items waiting farewell
      (.working ⟨.serving, work⟩ ⟨⟨client, writerChain⟩, net'⟩) :=
  .working prints between (show waiting = [] ++ waiting from rfl) letters
    ((congrArg Queue.toList output).trans (List.append_nil _).symm) context

theorem Loop.writerGoes_step (other : client ≠ core) {work : Work String Unit}
    (prints : work.Prints core client held) (between : Between core client net items queue)
    (letters : Letters core client (held ++ queue) waiting farewell) :
    WriterGoes core client net items waiting farewell
      (Loop.step printing ⟨.serving, work⟩ ⟨⟨client, writerChain⟩, net⟩) := by
  have up : net.isTearingDown client = false := between.attends.not_isTearingDown
  cases prints with
  | free =>
    have up' : (⟨⟨client, writerChain⟩, net⟩ : Site String Unit).isTearingDown = false := up
    simp only [Loop.step, Loop.look, Site.next, up', Bool.false_eq_true, if_false]
    cases took : (⟨⟨client, writerChain⟩, net⟩ : Site String Unit).take with
    | none => exact .waiting
    | some oldest =>
      obtain ⟨⟨message, net'⟩, taken, rfl⟩ := Option.map_eq_some_iff.mp took
      obtain ⟨rest, rfl, between'⟩ := between.open_letter other taken
      exact .working_same (.taken message) between' letters (Network.output_take taken)
        (Network.queueAt_take taken).2.2
  | taken message =>
    have begun : Loop.step printing ⟨.serving, .taken message⟩ ⟨⟨client, writerChain⟩, net⟩ =
        .working ⟨.serving, .offering message (writerChain.offer printing client message)⟩
          ⟨⟨client, writerChain⟩, net⟩ :=
      if_neg (ne_true_of_eq_false up)
    rw [begun]
    exact .working_same (.begun message) between letters rfl rfl
  | begun message =>
    -- A letter is printed, unless it is the exit message, behind which there are no others
    obtain ⟨split, last⟩ := letters
    cases waiting with
    | nil =>
      obtain rfl : message :: queue = farewell := split
      obtain none | only := last
      · cases none
      · obtain ⟨rfl, rfl⟩ := List.cons.inj only
        exact .exited rfl (List.cons_ne_nil _ _)
    | cons reply rest =>
      obtain ⟨rfl, queued⟩ := List.cons.inj split
      exact .working (.printed reply) (between.of_endpoints rfl)
        (show reply :: rest = [reply] ++ rest from rfl) ⟨queued, last⟩ (Queue.toList_push _ _) rfl
  | printed reply =>
    exact .working_same .free (between.recordDispatched client) letters rfl rfl

end Steps

/-! ## Threads -/

/-- The thread of a console at some point of its program. -/
def consoleThread (core client : EndpointId) (drain : DrainPolicy) (worker : Worker String Unit)
    (phase : ThreadPhase String Unit) : Thread String Unit :=
  ⟨worker, ⟨⟨client, writerChain⟩, core, drain⟩, phase⟩

/-- At which point of its program the thread of the console is before it leaves its loop, which
lines it has not handed over yet, and what it has taken but not printed yet. -/
inductive ThreadPhase.Reads (console : ConsoleConfig) (core client : EndpointId) (limits : Limits) :
    ThreadPhase String Unit → List String → List Message → Prop where
  | opening (lines : List String) :
      Reads console core client limits
        (.opening ((Console.worker console () lines).main ⟨client, core⟩)) (Console.spoken lines) []
  | opened (lines : List String) :
      Reads console core client limits
        (.opening (.done
          (.serve (Console.jobs (Console.channel console ⟨client, core⟩ limits) lines) 0)))
        (Console.spoken lines) []
  | looping {work : Work String Unit} {held : List Message} (unsent : List String) :
      work.Prints core client held →
      Reads console core client limits
        (.looping ⟨.serving, work⟩
          (unsent.map (Console.feed (Console.channel console ⟨client, core⟩ limits))) 0)
        unsent held

/-- What the thread of the console does when it acts: of the lines that are not handed over yet, the
first are those that it hands over, and of the answers that wait, the first are those that it
prints. -/
inductive ConsoleGoes (console : ConsoleConfig) (core client : EndpointId) (limits : Limits)
    (net : Network String) (items : List Item) (unsent : List String) (waiting : List Reply)
    (farewell : List Message) : ThreadPhase String Unit → Network String → Prop where
  | on {phase : ThreadPhase String Unit} {net' : Network String} {fed unsent' : List String}
      {held queue : List Message} {said waiting' : List Reply} :
      phase.Reads console core client limits unsent' held →
      Between core client net' (items ++ fed.map fun line => .line (Console.tagged line)) queue →
      Letters core client (held ++ queue) waiting' farewell →
      unsent = fed ++ unsent' → waiting = said ++ waiting' →
      net'.output.toList = net.output.toList ++ said.map Reply.printed →
      net'.context = net.context →
      ConsoleGoes console core client limits net items unsent waiting farewell phase net'
  | leaves : waiting = [] → farewell ≠ [] →
      ConsoleGoes console core client limits net items unsent waiting farewell (.leaving 0)
        (net.recordDispatched client)

section Threads

variable {console : ConsoleConfig} {core client : EndpointId} {limits : Limits}
variable {net net' : Network String} {items : List Item} {drain : DrainPolicy}
variable {worker : Worker String Unit} {phase : ThreadPhase String Unit} {unsent : List String}
variable {held queue : List Message} {waiting : List Reply} {farewell : List Message}
variable {after : Thread String Unit}

/-- A step by which no line is handed over. -/
theorem ConsoleGoes.on_same {said waiting' : List Reply}
    (reads : phase.Reads console core client limits unsent held)
    (between : Between core client net' items queue)
    (letters : Letters core client (held ++ queue) waiting' farewell)
    (split : waiting = said ++ waiting')
    (output : net'.output.toList = net.output.toList ++ said.map Reply.printed)
    (context : net'.context = net.context) :
    ConsoleGoes console core client limits net items unsent waiting farewell phase net' := by
  refine .on reads ?_ letters (show unsent = [] ++ unsent from rfl) split output context
  rw [List.map_nil, List.append_nil]
  exact between

/-- A step by which only the thread gets further. -/
theorem ConsoleGoes.on_silent (reads : phase.Reads console core client limits unsent held)
    (between : Between core client net items queue)
    (letters : Letters core client (held ++ queue) waiting farewell) :
    ConsoleGoes console core client limits net items unsent waiting farewell phase net :=
  .on_same reads between letters (show waiting = [] ++ waiting from rfl)
    (List.append_nil _).symm rfl

theorem Thread.consoleGoes_step (other : client ≠ core)
    (reads : phase.Reads console core client limits unsent held)
    (between : Between core client net items queue)
    (letters : Letters core client (held ++ queue) waiting farewell)
    (same : net.context.limits = limits)
    (stepped : (consoleThread core client drain worker phase).step printing net =
      some (after, net')) :
    ∃ phase', after = consoleThread core client drain worker phase' ∧
      ConsoleGoes console core client limits net items unsent waiting farewell phase' net' := by
  have goes : Thread.Goes printing worker ⟨⟨client, writerChain⟩, core, drain⟩ net phase after
      net' := Thread.goes_step stepped
  cases reads with
  | opening lines =>
    -- The limits are those of the shared context, which the console asks for first
    subst same
    cases goes with
    | ask => exact ⟨_, rfl, .on_silent (.opened lines) between letters⟩
  | opened lines =>
    cases goes with
    | serve => exact ⟨_, rfl, .on_silent (.looping _ .free) between letters⟩
  | @looping work held unsent prints =>
    have wrote := Loop.writerGoes_step other prints between letters
    cases goes with
    | loop looped =>
      rw [WorkerContext.site] at looped
      rw [looped] at wrote
      cases wrote with
      | working prints' between' split letters' output context =>
        exact ⟨_, rfl, .on_same (.looping unsent prints') between' letters' split output context⟩
    | ended looped =>
      rw [WorkerContext.site] at looped
      rw [looped] at wrote
      cases wrote with
      | exited none last => exact ⟨_, rfl, .leaves none last⟩

theorem Thread.consoleGoes_taskStep (other : client ≠ core) (admits : Console.Admits console)
    (wide : 13 ≤ limits.maxSourceLength.toNat)
    (reads : phase.Reads console core client limits unsent held)
    (between : Between core client net items queue)
    (letters : Letters core client (held ++ queue) waiting farewell)
    (stepped : (consoleThread core client drain worker phase).taskStep net = some (after, net')) :
    ∃ phase', after = consoleThread core client drain worker phase' ∧
      ConsoleGoes console core client limits net items unsent waiting farewell phase' net' := by
  cases reads with
  | opening lines => exact nomatch stepped
  | opened lines => exact nomatch stepped
  | @looping work held unsent prints =>
    cases unsent with
    | nil => cases work <;> exact nomatch stepped
    | cons line rest =>
      cases prints with
      | free =>
        obtain ⟨rfl, rfl⟩ := Prod.mk.inj (Option.some.inj stepped)
        rw [Console.run_feed admits wide]
        have handed : Between core client _
            (items ++ [line].map fun line => .line (Console.tagged line)) queue :=
          between.item other (.line (Console.tagged line))
        refine ⟨_, rfl, .on (.looping rest .free) handed letters rfl
          (show waiting = [] ++ waiting from rfl) ?_ ?_⟩
        · rw [Network.output_send]
          exact (List.append_nil _).symm
        · exact Network.context_send _ _ _ _
      | taken message => exact nomatch stepped
      | begun message => exact nomatch stepped
      | printed reply => exact nomatch stepped

/-! ### After the loop -/

/-- The thread of the console has got its exit message, and prints nothing any more. -/
inductive ThreadPhase.Left : ThreadPhase String Unit → Prop where
  | leaving (code : Int32) : Left (.leaving code)
  | draining {loop : Loop String Unit} (task : List (BusProgram String Unit)) (code : Int32) :
      loop.mode.isServing = false → loop.work.isOffering = false → Left (.looping loop task code)
  | returned (code : Int32) : Left (.returned code)

theorem Thread.left_step (left : phase.Left)
    (stands : (consoleThread core client drain worker phase).Stands net)
    (stepped : (consoleThread core client drain worker phase).step printing net =
      some (after, net')) :
    ∃ phase' : ThreadPhase String Unit, after = consoleThread core client drain worker phase' ∧
      phase'.Left ∧ net'.output = net.output := by
  have goes : Thread.Goes printing worker ⟨⟨client, writerChain⟩, core, drain⟩ net phase after
      net' := Thread.goes_step stepped
  cases left with
  | leaving code =>
    cases goes with
    | leave => exact ⟨_, rfl, .draining [] code rfl rfl, rfl⟩
  | returned code => exact nomatch goes
  | @draining loop task code draining idle =>
    cases goes with
    | @loop _ next _ _ site looped =>
      have down : net.isTearingDown client = true := stands.down (congrArg not draining)
      obtain ⟨output, mailbox⟩ := Loop.outside_step looped idle
      refine ⟨.looping next task code, ?_, .draining task code
        ((Loop.isServing_step looped).trans draining) (Loop.isOffering_step looped down idle),
        output⟩
      rw [WorkerContext.after, mailbox]
      rfl
    | ended looped =>
      obtain ⟨rfl, taken, rfl⟩ := Loop.drained_step looped draining
      exact ⟨_, rfl, .returned code, rfl⟩

theorem Thread.left_taskStep (left : phase.Left) :
    (consoleThread core client drain worker phase).taskStep net = none := by
  cases left with
  | leaving code => rfl
  | returned code => rfl
  | @draining loop task code draining idle =>
    obtain ⟨mode, work⟩ := loop
    cases mode with
    | serving => contradiction
    | draining limit count taken => rfl

end Threads

end AgentBus
