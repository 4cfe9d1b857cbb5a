import Mathlib.Data.List.Induction
import AgentBus.Proofs.Agent.Answered
import AgentBus.Proofs.Agent.Attended
import AgentBus.Proofs.Agent.Conversation
import AgentBus.Proofs.Agent.Orderly
import AgentBus.Proofs.Channel.Lines

/-!
# Console sessions

An agent whose only worker is the console. While its core serves, the commands of the input are
those that were answered, then those that the core has still to answer, then those of the lines that
were not handed over yet; and the answers are those that were printed, then those that wait for the
console, then those that the core has still to send (`Conversing`). The core stops serving between
two messages, so all answers are sent then, and the exit message comes behind them (`Parting`): when
the console leaves, everything is printed (`Parted`), and nothing comes after that (`Clearing`,
`Returned`).
-/

namespace AgentBus

open CommandLine (printing)

/-- The slot of the console when its thread was joined. -/
def stoppedSlot (config : Config) (console : ConsoleConfig) (lines : List String) (code : Int32) :
    Slot String Unit where
  name := Console.workerName
  state := .stopped
  worker := some (Console.worker console () lines)
  context := some ⟨⟨⟨1⟩, writerChain⟩, ⟨0⟩, config.bus⟩
  endpoint := some ⟨1⟩
  exitValue := some code

namespace Agent

/-! ## How a session stands -/

/-- The answered commands when nothing more will be answered: the first ones of the input, and among
them one that quits, unless somebody else has requested the shutdown. -/
structure Concluded (commands : List Command) (asked : Prop) (replies : List Reply) : Prop where
  first : replies.map Reply.command <+: commands
  reason : asked ∨ ∃ reply ∈ replies, reply.command.quits = true

section Stages

variable (config : Config) (console : ConsoleConfig) (lines : List String) (asked : Prop)
variable (replies : List Reply) (agent : Agent String Unit)

/-- The core serves. -/
structure Conversing (work : Work String CoreHandler) (hand : Hand) (items : List Item)
    (unsent : List String) (said waiting : List Reply) : Prop where
  phase : agent.phase = .serving ⟨.serving, work⟩
  mailbox : agent.core.mailbox = ⟨⟨0⟩, coreChain⟩
  holds : work.Holds ⟨0⟩ ⟨1⟩ hand
  speaks : agent.Speaks config console lines items unsent said waiting []
  commands : Console.commands config.protocol lines = replies.map Reply.command ++
    (hand.todo config.protocol items ++ unsent.filterMap (Console.command? config.protocol))
  split : replies = said ++ (waiting ++ hand.replies)
  reason : agent.network.context.shutdownRequested = true →
    asked ∨ ∃ reply ∈ replies, reply.command.quits = true

/-- The core waits until the console has left. -/
def Awaits : Prop :=
  agent.phase = .dismissing [] ∨ agent.phase = .joining

/-- The core has stopped serving, and the console is still in its loop. -/
structure Parting (items : List Item) (unsent : List String) (said waiting : List Reply)
    (farewell : List Message) : Prop where
  own : agent.core.own = ⟨0⟩
  phase : agent.phase = .dismissing [⟨1⟩] ∧ farewell = [] ∨ agent.Awaits ∧ farewell ≠ []
  speaks : agent.Speaks config console lines items unsent said waiting farewell
  split : replies = said ++ waiting
  concluded : Concluded (Console.commands config.protocol lines) asked replies

/-- The console has left its loop. -/
structure Parted (phase : ThreadPhase String Unit) : Prop where
  own : agent.core.own = ⟨0⟩
  awaits : agent.Awaits
  slots : agent.registry.slots = [consoleSlot config console lines phase]
  left : phase.Left
  serves : agent.network.Serves ⟨0⟩
  output : agent.network.output.toList = replies.map Reply.printed
  concluded : Concluded (Console.commands config.protocol lines) asked replies

/-- The core releases what is left in its queue. -/
structure Clearing (loop : Loop String CoreHandler) (code : Int32) : Prop where
  phase : agent.phase = .draining loop
  draining : loop.mode.isServing = false
  idle : loop.work.isOffering = false
  down : agent.network.isTearingDown agent.core.own = true
  slots : agent.registry.slots = [stoppedSlot config console lines code]
  output : agent.network.output.toList = replies.map Reply.printed
  concluded : Concluded (Console.commands config.protocol lines) asked replies

/-- The core has returned. -/
structure Returned : Prop where
  phase : agent.phase = .finished
  nobody : agent.registry.slots = []
  output : agent.network.output.toList = replies.map Reply.printed
  concluded : Concluded (Console.commands config.protocol lines) asked replies

/-- How a session stands in which these answers were produced. -/
inductive Talks : Prop where
  | conversing {work : Work String CoreHandler} {hand : Hand} {items : List Item}
      {unsent : List String} {said waiting : List Reply} :
      agent.Conversing config console lines asked replies work hand items unsent said waiting →
      Talks
  | parting {items : List Item} {unsent : List String} {said waiting : List Reply}
      {farewell : List Message} :
      agent.Parting config console lines asked replies items unsent said waiting farewell → Talks
  | parted {phase : ThreadPhase String Unit} :
      agent.Parted config console lines asked replies phase → Talks
  | clearing {loop : Loop String CoreHandler} {code : Int32} :
      agent.Clearing config console lines asked replies loop code → Talks
  | returned : agent.Returned config lines asked replies → Talks

end Stages

/-! ## Moves -/

variable {config : Config} {console : ConsoleConfig} {lines : List String} {asked : Prop}
variable {replies : List Reply} {agent agent' : Agent String Unit} {move : Move String}
variable {items : List Item} {unsent : List String} {said waiting : List Reply}
variable {farewell : List Message}

theorem Concluded.mono {commands : List Command} {asked' : Prop}
    (concluded : Concluded commands asked replies) (more : asked → asked') :
    Concluded commands asked' replies :=
  ⟨concluded.first, concluded.reason.imp_left more⟩

/-- A move leads on when the answers that it produces are added. -/
def LeadsOn (config : Config) (console : ConsoleConfig) (lines : List String) (asked : Prop)
    (replies : List Reply) (agent : Agent String Unit) (move : Move String)
    (agent' : Agent String Unit) : Prop :=
  ∃ more, agent.Answering move more ∧
    agent'.Talks config console lines (asked ∨ move.IsRequest) (replies ++ more)

/-- A move in which nothing is answered. -/
theorem LeadsOn.quiet (quiet : move = .turn .core → ∀ command, ¬ agent.Answers command)
    (talks : agent'.Talks config console lines (asked ∨ move.IsRequest) replies) :
    LeadsOn config console lines asked replies agent move agent' :=
  ⟨[], .nothing quiet, by rw [List.append_nil]; exact talks⟩

/-! ### While the core serves -/

theorem answering_of_tells {work : Work String CoreHandler} {told : List Reply}
    (phase : agent.phase = .serving ⟨.serving, work⟩)
    (mailbox : agent.core.mailbox = ⟨⟨0⟩, coreChain⟩)
    (tells : work.Tells coreChain ⟨0⟩ agent.network.context told) :
    agent.Answering (.turn .core) told := by
  have chain : agent.core.mailbox.chain = coreChain := congrArg Mailbox.chain mailbox
  have own : agent.core.own = ⟨0⟩ := congrArg Mailbox.endpoint mailbox
  cases tells with
  | nothing quiet =>
    refine .nothing fun _ command answers => ?_
    obtain ⟨loop, serving | draining, answers⟩ := answers
    · obtain rfl := AgentPhase.serving.inj (phase.symm.trans serving)
      rw [chain, own] at answers
      exact quiet command answers
    · exact nomatch phase.symm.trans draining
  | answer answers =>
    refine .answer ⟨_, .inl phase, ?_⟩
    rw [chain, own]
    exact answers

section Conversing

variable {work : Work String CoreHandler} {hand : Hand}

theorem Conversing.serve
    (conversing : agent.Conversing config console lines asked replies work hand items unsent said
      waiting)
    {next : Loop String CoreHandler} {site : Site String CoreHandler}
    (looped : Loop.step CoreHandler.behaviour ⟨.serving, work⟩ agent.site = .working next site) :
    LeadsOn config console lines asked replies agent (.turn .core)
      { agent.after site with phase := .serving next } := by
  obtain ⟨phase, mailbox, holds, ⟨slots, reads, between, letters, limits, output⟩, commands, split,
    reason⟩ := conversing
  have goes := Loop.coreGoes_step apart holds between
  have site' : agent.site = ⟨⟨⟨0⟩, coreChain⟩, agent.network⟩ := by
    rw [← mailbox]
    rfl
  rw [← site', looped] at goes
  cases goes with
  | @working net' work' hand' items' told sent proceeds =>
    -- What is sent now comes behind the answers that wait for the console
    have speaks' : Speaks config console lines { agent.after ⟨⟨⟨0⟩, coreChain⟩, net'⟩ with
        phase := .serving ⟨.serving, work'⟩ } items' unsent said (waiting ++ sent) [] := by
      have queued := letters.eq
      rw [List.append_nil] at queued
      refine ⟨slots, reads, proceeds.between, ⟨?_, letters.farewell⟩, ?_,
        (congrArg Queue.toList proceeds.output).trans output⟩
      · rw [List.append_nil, List.map_append, ← queued, List.append_assoc]
      · obtain same | ⟨requested, -⟩ := proceeds.context
        · exact (congrArg Context.limits same).trans limits
        · exact (congrArg Context.limits requested).trans limits
    refine ⟨told, answering_of_tells phase mailbox proceeds.tells,
      .conversing ⟨rfl, rfl, proceeds.holds, speaks', ?_, ?_, ?_⟩⟩
    · have todo := proceeds.todo
      rw [limits] at todo
      rw [commands, todo, List.map_append, List.append_assoc, List.append_assoc]
    · rw [split, List.append_assoc, List.append_assoc, proceeds.replies, List.append_assoc]
    · intro requested
      obtain same | ⟨-, reply, member, quits⟩ := proceeds.context
      · obtain before | ⟨reply, member, quits⟩ :=
          reason ((congrArg Context.shutdownRequested same).symm.trans requested)
        · exact .inl (.inl before)
        · exact .inr ⟨reply, List.mem_append_left _ member, quits⟩
      · refine .inr ⟨reply, List.mem_append_left _ ?_, quits⟩
        rw [split]
        exact List.mem_append_right _ (List.mem_append_right _ member)

/-- The core does not stop serving by itself. -/
theorem Conversing.not_ended
    (conversing : agent.Conversing config console lines asked replies work hand items unsent said
      waiting)
    {how : LoopEnd} {site : Site String CoreHandler} :
    Loop.step CoreHandler.behaviour ⟨.serving, work⟩ agent.site ≠ .ended how site := by
  intro ended
  obtain ⟨_, _, between, _, _, _⟩ := conversing.speaks
  have goes := Loop.coreGoes_step apart conversing.holds between
  rw [← conversing.mailbox] at goes
  exact nomatch ended ▸ goes

/-- All answers are sent when the core stops serving. -/
theorem Conversing.notice
    (conversing : agent.Conversing config console lines asked replies .free hand items unsent said
      waiting)
    (requested : agent.network.context.shutdownRequested = true) :
    Agent.Parting config console lines asked replies
      { agent with phase := dismissal agent.registry } items unsent said waiting [] := by
  obtain ⟨-, mailbox, holds, ⟨slots, reads, between, letters, limits, output⟩, commands, split,
    reason⟩ := conversing
  -- Between two messages the core has no answer in hand
  cases holds
  have endpoints : agent.registry.endpoints = [⟨1⟩] := by
    rw [Registry.endpoints, slots]
    rfl
  refine ⟨congrArg Mailbox.endpoint mailbox, .inl ⟨congrArg AgentPhase.dismissing endpoints, rfl⟩,
    ⟨slots, reads, between, letters, limits, output⟩, ?_, ⟨⟨_, commands.symm⟩, reason requested⟩⟩
  rw [split, List.append_nil]

theorem Conversing.leadsOn
    (conversing : agent.Conversing config console lines asked replies work hand items unsent said
      waiting)
    (admits : Console.Admits console) (wide : 13 ≤ config.protocol.maxSourceLength.toNat)
    (usual : move.IsUsual) (step : agent.Step printing move agent') :
    LeadsOn config console lines asked replies agent move agent' := by
  obtain ⟨phase, mailbox, holds, speaks, commands, split, reason⟩ := id conversing
  have reason' (requested : agent.network.context.shutdownRequested = true) :
      (asked ∨ move.IsRequest) ∨ ∃ reply ∈ replies, reply.command.quits = true :=
    (reason requested).imp_left .inl
  cases step with
  | stay stuck =>
    refine .quiet (fun same command answers => answers.turn (stuck _ same)) ?_
    exact .conversing ⟨phase, mailbox, holds, speaks, commands, split, reason'⟩
  | clock seconds =>
    refine .quiet nofun ?_
    exact .conversing ⟨phase, mailbox, holds, speaks.context rfl, commands, split, reason'⟩
  | ask request =>
    obtain rfl : request = .change .requestShutdown := usual
    refine .quiet nofun ?_
    exact .conversing ⟨phase, mailbox, holds, speaks.context rfl, commands, split,
      fun _ => .inl (.inr trivial)⟩
  | act found running acts =>
    refine .quiet (fun same => ?_) ?_
    · subst same
      exact nomatch acts
    cases speaks.act admits wide usual found running acts with
    | on speaks' unsent' waiting' context =>
      -- The lines move from the input to the queue, and the answers from the queue to the output
      refine .conversing ⟨phase, mailbox, holds, speaks', ?_, ?_, fun requested =>
        reason' ((congrArg Context.shutdownRequested context).symm.trans requested)⟩
      · rw [Console.todo_handed, commands, unsent', List.filterMap_append, List.append_assoc]
      · rw [split, waiting', List.append_assoc, List.append_assoc]
    | left _ _ _ _ last => exact absurd rfl last
  | serve phase' looped =>
    obtain rfl := AgentPhase.serving.inj (phase.symm.trans phase')
    exact conversing.serve looped
  | leave phase' ended =>
    obtain rfl := AgentPhase.serving.inj (phase.symm.trans phase')
    exact absurd ended conversing.not_ended
  | notice phase' requested =>
    obtain rfl := (Loop.mk.inj (AgentPhase.serving.inj (phase.symm.trans phase'))).2
    obtain ⟨own, phase, speaks, split, concluded⟩ := conversing.notice requested
    exact .quiet nofun (.parting ⟨own, phase, speaks, split, concluded.mono .inl⟩)
  | dismiss other | dismissed other | join other | drain other | close other =>
    exact nomatch phase.symm.trans other

end Conversing

/-! ### While the console leaves -/

theorem Awaits.not_answers (awaits : agent.Awaits) (command : Command) :
    ¬ agent.Answers command := by
  obtain dismissing | joining := awaits
  · exact not_answers_of_phase dismissing (fun _ => ⟨nofun, nofun⟩) command
  · exact not_answers_of_phase joining (fun _ => ⟨nofun, nofun⟩) command

theorem Parting.not_answers
    (parting : agent.Parting config console lines asked replies items unsent said waiting farewell)
    (command : Command) : ¬ agent.Answers command := by
  obtain ⟨dismissing, -⟩ | ⟨awaits, -⟩ := parting.phase
  · exact not_answers_of_phase dismissing (fun _ => ⟨nofun, nofun⟩) command
  · exact awaits.not_answers command

theorem Speaks.busy
    (speaks : agent.Speaks config console lines items unsent said waiting farewell) :
    agent.registry.isBusy = true := by
  obtain ⟨slots, reads, -, -, -, -⟩ := speaks
  rw [Registry.isBusy, slots]
  cases reads <;> rfl

/-- The exit message comes behind all letters. -/
theorem Speaks.dismiss (speaks : agent.Speaks config console lines items unsent said waiting [])
    (own : agent.core.own = ⟨0⟩) (phase : AgentPhase String) :
    Speaks config console lines
      { agent with
        network := (agent.network.send (.ofPayload .exit) agent.core.own ⟨1⟩).2
        phase }
      items unsent said waiting [⟨.exit, some ⟨⟨0⟩, ⟨1⟩⟩⟩] := by
  obtain ⟨slots, reads, between, letters, limits, output⟩ := speaks
  rw [own]
  refine ⟨slots, reads, between.letter apart .exit, ⟨?_, .inr rfl⟩, ?_, ?_⟩
  · have split := letters.eq
    rw [List.append_nil] at split
    rw [← List.append_assoc, split]
  · exact (congrArg Context.limits (Network.context_send _ _ _ _)).trans limits
  · exact (congrArg Queue.toList (Network.output_send _ _ _ _)).trans output

theorem Parting.leadsOn
    (parting : agent.Parting config console lines asked replies items unsent said waiting farewell)
    (admits : Console.Admits console) (wide : 13 ≤ config.protocol.maxSourceLength.toNat)
    (usual : move.IsUsual) (step : agent.Step printing move agent') :
    LeadsOn config console lines asked replies agent move agent' := by
  refine .quiet (fun _ => parting.not_answers) ?_
  obtain ⟨own, phase, speaks, split, concluded⟩ := parting
  replace concluded : Concluded _ (asked ∨ move.IsRequest) _ := concluded.mono .inl
  cases step with
  | stay => exact .parting ⟨own, phase, speaks, split, concluded⟩
  | clock seconds => exact .parting ⟨own, phase, speaks.context rfl, split, concluded⟩
  | ask request =>
    obtain rfl : request = .change .requestShutdown := usual
    exact .parting ⟨own, phase, speaks.context rfl, split, concluded⟩
  | act found running acts =>
    cases speaks.act admits wide usual found running acts with
    | on speaks' _ waiting' _ =>
      refine .parting ⟨own, phase, speaks', ?_, concluded⟩
      rw [split, waiting', List.append_assoc]
    | left slots output serves none last =>
      -- Only the exit message makes the console leave, and it was sent behind all answers
      obtain ⟨-, nothing⟩ | ⟨awaits, -⟩ := phase
      · exact absurd nothing last
      · rw [none, List.append_nil] at split
        subst split
        exact .parted ⟨own, awaits, slots, .leaving 0, serves, output, concluded⟩
  | dismiss other =>
    obtain ⟨dismissing, rfl⟩ | ⟨dismissing | joining, -⟩ := phase
    · obtain ⟨rfl, rfl⟩ := List.cons.inj (AgentPhase.dismissing.inj (dismissing.symm.trans other))
      exact .parting ⟨own, .inr ⟨.inl rfl, List.cons_ne_nil _ _⟩, speaks.dismiss own _, split,
        concluded⟩
    · exact nomatch dismissing.symm.trans other
    · exact nomatch joining.symm.trans other
  | dismissed other =>
    obtain ⟨dismissing, -⟩ | ⟨-, last⟩ := phase
    · exact nomatch dismissing.symm.trans other
    · obtain ⟨slots, reads, between, letters, limits, output⟩ := speaks
      exact .parting ⟨own, .inr ⟨.inr rfl, last⟩,
        ⟨slots, reads, between, letters, limits, output⟩, split, concluded⟩
  | join _ idle => exact nomatch speaks.busy.symm.trans idle
  | serve other | leave other | notice other | drain other | close other =>
    obtain ⟨dismissing, -⟩ | ⟨dismissing | joining, -⟩ := phase
    · exact nomatch dismissing.symm.trans other
    · exact nomatch dismissing.symm.trans other
    · exact nomatch joining.symm.trans other

/-! ### When the console has left -/

section Parted

variable {phase : ThreadPhase String Unit}

/-- The core waits until the thread has come to its end. -/
theorem Parted.returned (parted : agent.Parted config console lines asked replies phase)
    (idle : agent.registry.isBusy = false) : ∃ code, phase = .returned code := by
  rw [Registry.isBusy, parted.slots] at idle
  cases parted.left with
  | leaving code => contradiction
  | draining task code => contradiction
  | returned code => exact ⟨code, rfl⟩

theorem Parted.leadsOn (parted : agent.Parted config console lines asked replies phase)
    (placed : agent.Placed) (usual : move.IsUsual) (step : agent.Step printing move agent') :
    LeadsOn config console lines asked replies agent move agent' := by
  refine .quiet (fun _ => parted.awaits.not_answers) ?_
  obtain ⟨own, awaits, slots, left, serves, output, concluded⟩ := id parted
  replace concluded : Concluded _ (asked ∨ move.IsRequest) _ := concluded.mono .inl
  cases step with
  | stay | clock seconds => exact .parted ⟨own, awaits, slots, left, serves, output, concluded⟩
  | ask request =>
    obtain rfl : request = .change .requestShutdown := usual
    exact .parted ⟨own, awaits, slots, left, serves, output, concluded⟩
  | act found running acts =>
    have stands := placed.stands (thread?_eq_some.mpr ⟨_, found, running⟩)
    obtain ⟨rfl, rfl, rfl⟩ := of_slot slots found running
    cases acts with
    | step stepped =>
      have kept : Thread.Keeps (fun _ _ => True) _ _ _ _ :=
        Thread.keeps_step (Behaviour.makes_anything _) BusRequest.common_anything
          (ThreadPhase.makes_anything _) stepped
      obtain ⟨phase', rfl, left', output'⟩ := Thread.left_step left stands stepped
      refine .parted ⟨own, awaits, ?_, left', (kept.touch.spares apart).serves serves,
        (congrArg Queue.toList output').trans output, concluded⟩
      rw [withSlot, slots]
      rfl
    | task stepped => cases (Thread.left_taskStep left).symm.trans stepped
    | crash => exact usual.elim
  | dismissed => exact .parted ⟨own, .inr rfl, slots, left, serves, output, concluded⟩
  | join joining idle =>
    -- From here on the core's endpoint is tearing down, so no handler is called any more
    obtain ⟨code, rfl⟩ := parted.returned idle
    have slots' : agent.registry.stop.slots = [stoppedSlot config console lines code] := by
      rw [Registry.stop, slots]
      rfl
    refine .clearing ⟨rfl, rfl, rfl, ?_, slots', output, concluded⟩
    rw [own]
    exact Network.isTearingDown_tearDown serves
  | serve other | leave other | notice other | dismiss other | drain other | close other =>
    obtain dismissing | joining := awaits
    · cases dismissing.symm.trans other
    · cases joining.symm.trans other

end Parted

section Clearing

variable {loop : Loop String CoreHandler} {code : Int32}

theorem Clearing.not_answers
    (clearing : agent.Clearing config console lines asked replies loop code) (command : Command) :
    ¬ agent.Answers command := by
  apply not_answers_of
  rintro loop' (serving | draining)
  · exact nomatch clearing.phase.symm.trans serving
  · obtain rfl := AgentPhase.draining.inj (clearing.phase.symm.trans draining)
    exact clearing.idle

theorem output_close (slots : agent.registry.slots = [stoppedSlot config console lines code]) :
    (agent.close printing).network.output = agent.network.output := by
  have silent : (agent.site.finishHandlers CoreHandler.behaviour).2.network.output =
      agent.network.output :=
    (keeps_finishHandlers agent.site).touch.output fun request plain output same => by
      rw [same] at plain
      exact plain
  -- The console does nothing when it is cleaned up
  obtain ⟨core, ⟨_⟩, network, phase, failure⟩ := agent
  obtain rfl := slots
  exact silent

theorem Clearing.leadsOn (clearing : agent.Clearing config console lines asked replies loop code)
    (usual : move.IsUsual) (step : agent.Step printing move agent') :
    LeadsOn config console lines asked replies agent move agent' := by
  refine .quiet (fun _ => clearing.not_answers) ?_
  obtain ⟨phase, draining, idle, down, slots, output, concluded⟩ := clearing
  replace concluded : Concluded _ (asked ∨ move.IsRequest) _ := concluded.mono .inl
  cases step with
  | stay | clock seconds =>
    exact .clearing ⟨phase, draining, idle, down, slots, output, concluded⟩
  | ask request =>
    obtain rfl : request = .change .requestShutdown := usual
    exact .clearing ⟨phase, draining, idle, down, slots, output, concluded⟩
  | @act index slot thread _ _ _ found running =>
    -- The console's thread was joined, and nobody else has one
    rw [slots] at found
    cases index with
    | zero =>
      obtain rfl := Option.some.inj found
      exact nomatch running
    | succ index => exact nomatch found
  | drain phase' looped =>
    obtain rfl := AgentPhase.draining.inj (phase.symm.trans phase')
    obtain ⟨output', mailbox⟩ := Loop.outside_step looped idle
    have kept : Loop.Keeps (fun _ _ => True) agent.site _ _ :=
      Loop.keeps_step looped (Behaviour.makes_anything _) BusRequest.common_anything
        (Work.makes_anything _)
    refine .clearing ⟨rfl, (Loop.isServing_step looped).trans draining,
      Loop.isOffering_step looped down idle, ?_, slots,
      (congrArg Queue.toList output').trans output, concluded⟩
    have own : (agent.after _).core.own = agent.core.own := kept.own
    rw [own]
    exact kept.touch.isTearingDown down
  | close phase' ended =>
    obtain rfl := AgentPhase.draining.inj (phase.symm.trans phase')
    obtain ⟨rfl, taken, rfl⟩ := Loop.drained_step ended draining
    have closed := output_close (show (agent.after agent.site).registry.slots = _ from slots)
    exact .returned ⟨rfl, rfl, (congrArg Queue.toList closed).trans output, concluded⟩
  | serve other | leave other | notice other | dismiss other | dismissed other | join other =>
    exact nomatch phase.symm.trans other

end Clearing

theorem Returned.leadsOn (returned : agent.Returned config lines asked replies)
    (usual : move.IsUsual) (step : agent.Step printing move agent') :
    LeadsOn config console lines asked replies agent move agent' := by
  obtain ⟨phase, nobody, output, concluded⟩ := returned
  refine .quiet (fun _ => not_answers_of_phase phase fun _ => ⟨nofun, nofun⟩) ?_
  replace concluded : Concluded _ (asked ∨ move.IsRequest) _ := concluded.mono .inl
  rcases step_of_finished phase nobody step with rfl | ⟨request, rfl, rfl⟩ | ⟨seconds, rfl⟩
  · exact .returned ⟨phase, nobody, output, concluded⟩
  · obtain rfl : request = .change .requestShutdown := usual
    exact .returned ⟨phase, nobody, output, concluded⟩
  · exact .returned ⟨phase, nobody, output, concluded⟩

/-! ## The whole session -/

theorem Talks.step (talks : agent.Talks config console lines asked replies)
    (admits : Console.Admits console) (wide : 13 ≤ config.protocol.maxSourceLength.toNat)
    (placed : agent.Placed) (usual : move.IsUsual) (step : agent.Step printing move agent') :
    LeadsOn config console lines asked replies agent move agent' := by
  cases talks with
  | conversing conversing => exact conversing.leadsOn admits wide usual step
  | parting parting => exact parting.leadsOn admits wide usual step
  | parted parted => exact parted.leadsOn placed usual step
  | clearing clearing => exact clearing.leadsOn usual step
  | returned returned => exact returned.leadsOn usual step

/-- An agent whose only worker is the console, after some moves. -/
def consoleSession (config : Config) (console : ConsoleConfig) (lines : List String)
    (moves : List (Move String)) : Agent String Unit :=
  session printing config [Console.worker console () lines] moves

theorem talks_launch (config : Config) (console : ConsoleConfig) (lines : List String) :
    (consoleSession config console lines []).Talks config console lines False [] := by
  have slots : (consoleSession config console lines []).registry.slots =
      [consoleSlot config console lines
        (.opening ((Console.worker console () lines).main ⟨⟨1⟩, ⟨0⟩⟩))] := rfl
  have between : Between ⟨0⟩ ⟨1⟩ (consoleSession config console lines []).network [] [] :=
    ⟨⟨_, rfl, rfl, rfl⟩, ⟨_, rfl, rfl, rfl⟩, rfl, rfl⟩
  have speaks : (consoleSession config console lines []).Speaks config console lines []
      (Console.spoken lines) [] [] [] :=
    ⟨slots, .opening lines, between, ⟨rfl, .inl rfl⟩, rfl, rfl⟩
  exact .conversing ⟨rfl, rfl, .free, speaks, rfl, rfl, nofun⟩

theorem talks_session (admits : Console.Admits console)
    (wide : 13 ≤ config.protocol.maxSourceLength.toNat) {moves : List (Move String)}
    (usual : ∀ move ∈ moves, move.IsUsual) :
    ∃ replies, Answered printing config [Console.worker console () lines] moves replies ∧
      (consoleSession config console lines moves).Talks config console lines
        (∃ move ∈ moves, move.IsRequest) replies := by
  induction moves using List.reverseRecOn with
  | nil =>
    refine ⟨[], .nil, ?_⟩
    have nobody : (∃ move ∈ ([] : List (Move String)), move.IsRequest) = False := by simp
    rw [nobody]
    exact talks_launch config console lines
  | append_singleton moves move ih =>
    rw [List.forall_mem_append, List.forall_mem_singleton] at usual
    obtain ⟨replies, answered, talks⟩ := ih usual.1
    have step : (consoleSession config console lines moves).Step printing move _ := step_move move
    obtain ⟨more, answering, talks'⟩ :=
      talks.step admits wide (placed_session printing config _ moves) usual.2 step
    refine ⟨replies ++ more, .snoc answered answering, ?_⟩
    have requested : (∃ other ∈ moves ++ [move], other.IsRequest) =
        ((∃ other ∈ moves, other.IsRequest) ∨ move.IsRequest) := by
      simp [or_and_right, exists_or]
    rw [requested, consoleSession, session, moves_append]
    exact talks'

theorem Talks.returned_of_finished (talks : agent.Talks config console lines asked replies)
    (finished : agent.phase = .finished) : agent.Returned config lines asked replies := by
  cases talks with
  | returned returned => exact returned
  | conversing conversing => exact nomatch finished.symm.trans conversing.phase
  | clearing clearing => exact nomatch finished.symm.trans clearing.phase
  | parting parting =>
    obtain ⟨dismissing, -⟩ | ⟨dismissing | joining, -⟩ := parting.phase
    · exact nomatch finished.symm.trans dismissing
    · exact nomatch finished.symm.trans dismissing
    · exact nomatch finished.symm.trans joining
  | parted parted =>
    obtain dismissing | joining := parted.awaits
    · exact nomatch finished.symm.trans dismissing
    · exact nomatch finished.symm.trans joining

/-- Unless somebody else has asked for the shutdown, the first command that quits is answered. -/
theorem Concluded.findIdx_lt {commands : List Command}
    (concluded : Concluded commands asked replies) (alone : ¬ asked) :
    commands.findIdx Command.quits < replies.length := by
  obtain ⟨⟨rest, rfl⟩, asks | ⟨reply, member, quits⟩⟩ := concluded
  · exact absurd asks alone
  · have among : ∃ command ∈ replies.map Reply.command, command.quits = true :=
      ⟨reply.command, List.mem_map_of_mem member, quits⟩
    have early := List.findIdx_lt_length_of_exists among
    rw [List.findIdx_append, if_pos early]
    rwa [List.length_map] at early

/-- When the core of a console session has returned, the output is what the operations have
answered, one line each, in the order of the answers. The answered commands are the first ones of
the input. If nobody else asks for the shutdown, they go at least up to the first one that quits. -/
theorem console_session {text : String} (admits : Console.Admits console)
    (wide : 13 ≤ config.protocol.maxSourceLength.toNat) {moves : List (Move String)}
    (usual : ∀ move ∈ moves, move.IsUsual)
    (finished : (consoleSession config console (Console.lines (Text.bytes text)) moves).phase =
      .finished) :
    let commands := Console.commands config.protocol (Console.textLines text)
    ∃ replies count,
      Answered printing config [Console.worker console () (Console.lines (Text.bytes text))] moves
        replies ∧
      count ≤ commands.length ∧ replies.map Reply.command = commands.take count ∧
      (consoleSession config console (Console.lines (Text.bytes text))
          moves).network.output.toList =
        replies.map (fun reply => reply.text.text ++ "\n") ∧
      ((∀ move ∈ moves, ¬ move.IsRequest) → commands.findIdx Command.quits < count) := by
  obtain ⟨replies, answered, talks⟩ := talks_session admits wide usual
  obtain ⟨-, -, output, concluded⟩ := talks.returned_of_finished finished
  rw [Console.lines_bytes] at concluded
  have first := concluded.first
  refine ⟨replies, replies.length, answered, ?_, ?_, output, fun alone => concluded.findIdx_lt ?_⟩
  · have short := first.length_le
    rwa [List.length_map] at short
  · have taken := List.prefix_iff_eq_take.mp first
    rwa [List.length_map] at taken
  · rintro ⟨move, member, request⟩
    exact alone move member request

theorem finished_of_isOver (ends : CommandLine.isOver agent = true) : agent.phase = .finished := by
  rw [CommandLine.isOver] at ends
  split at ends
  · next finished => exact finished
  · exact nomatch ends

def pingQuit : String :=
  "AT = ( 1, \"ping\" )\nAT = ( 2, \"quit\" )\n"

/-- The console hands both lines over, and the core answers them before it notices that the second
one has requested the shutdown. It sends the exit message, the console prints and leaves, and the
core returns. -/
def pingQuitMoves : List (Move String) :=
  List.map .turn (.replicate 2 (.worker 0) ++ .replicate 2 (.task 0) ++ .replicate 31 .core ++
    [.notice] ++ .replicate 2 .core ++ .replicate 23 (.worker 0) ++ .replicate 12 .core)

theorem console_session_ping_quit :
    ∃ replies,
      Answered printing {} [Console.worker {} () (Console.lines (Text.bytes pingQuit))]
        pingQuitMoves replies ∧
      replies.map Reply.command = [⟨1, "ping", [], some ⟨"CONSOLE=stdin"⟩, none⟩,
        ⟨2, "quit", [], some ⟨"CONSOLE=stdin"⟩, none⟩] ∧
      replies.map Reply.printed =
        ["IH = ( 1, 200, \"pong\" )\n", "IH = ( 2, 200, \"bye\" )\n"] := by
  have usual : ∀ move ∈ pingQuitMoves, move.IsUsual :=
    List.forall_mem_map.mpr fun _ _ => trivial
  have alone : ∀ move ∈ pingQuitMoves, ¬ move.IsRequest :=
    List.forall_mem_map.mpr fun _ _ => id
  have commands : Console.commands ({} : Config).protocol (Console.textLines pingQuit) =
      [⟨1, "ping", [], some ⟨"CONSOLE=stdin"⟩, none⟩,
        ⟨2, "quit", [], some ⟨"CONSOLE=stdin"⟩, none⟩] := by
    decide +kernel
  have ran : CommandLine.isOver (consoleSession {} {} (Console.lines (Text.bytes pingQuit))
        pingQuitMoves) = true ∧
      (consoleSession {} {} (Console.lines (Text.bytes pingQuit))
        pingQuitMoves).network.output.toList =
          ["IH = ( 1, 200, \"pong\" )\n", "IH = ( 2, 200, \"bye\" )\n"] := by
    decide +kernel
  obtain ⟨replies, count, answered, atMost, first, output, quits⟩ :=
    console_session (.inl rfl) (by decide) usual (finished_of_isOver ran.1)
  rw [commands] at atMost first quits
  obtain rfl : count = 2 := Nat.le_antisymm atMost (quits alone)
  exact ⟨replies, answered, first, output.symm.trans ran.2⟩

end Agent

end AgentBus
