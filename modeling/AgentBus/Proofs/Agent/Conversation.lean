import AgentBus.Proofs.Agent.Moves
import AgentBus.Proofs.Channel.Console

/-!
# The core and its console

While the console is in its loop, items wait for the core, lines for being handed over, and answers
for being printed: `Agent.Speaks` counts them up. When the thread of the console acts, lines become
items and answers are printed, each from the head of what waits, or the console leaves because it
got its exit message behind all answers (`Speaks.act`).
-/

namespace AgentBus

open CommandLine (printing)

variable {ω : Type}

/-! ## Moves -/

/-- A move in which nobody panics. Others do no more than to request the shutdown. -/
def Move.IsUsual : Move ω → Prop
  | .turn _ => True
  | .crash _ => False
  | .ask request => request = .change .requestShutdown
  | .clock _ => True

/-- Somebody else requests something. -/
def Move.IsRequest : Move ω → Prop
  | .ask _ => True
  | _ => False

/-! ## The console -/

variable {config : Config} {console : ConsoleConfig} {lines : List String}

/-- The slot of the console while its thread runs. -/
def consoleSlot (config : Config) (console : ConsoleConfig) (lines : List String)
    (phase : ThreadPhase String Unit) : Slot String Unit where
  name := Console.workerName
  state := .running
  worker := none
  endpoint := some ⟨1⟩
  thread := some (consoleThread ⟨0⟩ ⟨1⟩ config.bus (Console.worker console () lines) phase)

namespace Agent

variable {agent agent' : Agent String Unit} {items : List Item} {unsent : List String}
variable {said waiting : List Reply} {farewell : List Message} {move : Move String}

/-- The console is still in its loop. These items wait for the core, these lines for being handed
over, and of the answers that were sent to the console these were printed and those wait. -/
inductive Speaks (config : Config) (console : ConsoleConfig) (lines : List String)
    (agent : Agent String Unit) (items : List Item) (unsent : List String)
    (said waiting : List Reply) (farewell : List Message) : Prop where
  | mk {phase : ThreadPhase String Unit} {held queue : List Message} :
      agent.registry.slots = [consoleSlot config console lines phase] →
      phase.Reads console ⟨0⟩ ⟨1⟩ config.protocol unsent held →
      Between ⟨0⟩ ⟨1⟩ agent.network items queue →
      Letters ⟨0⟩ ⟨1⟩ (held ++ queue) waiting farewell →
      agent.network.context.limits = config.protocol →
      agent.network.output.toList = said.map Reply.printed →
      Speaks config console lines agent items unsent said waiting farewell

theorem apart : (⟨1⟩ : EndpointId) ≠ ⟨0⟩ := by
  decide

/-- The context changes, but not its limits. -/
theorem Speaks.context
    (speaks : agent.Speaks config console lines items unsent said waiting farewell)
    {context : Context} (same : context.limits = agent.network.context.limits) :
    (agent.withNetwork { agent.network with context }).Speaks config console lines items unsent said
      waiting farewell := by
  obtain ⟨slots, reads, between, letters, limits, output⟩ := speaks
  exact ⟨slots, reads, between.of_endpoints rfl, letters, same.trans limits, output⟩

/-- What becomes of the console when its thread acts. -/
inductive SpeaksOn (config : Config) (console : ConsoleConfig) (lines : List String)
    (agent : Agent String Unit) (items : List Item) (unsent : List String)
    (said waiting : List Reply) (farewell : List Message) (agent' : Agent String Unit) : Prop where
  | on {fed unsent' : List String} {more waiting' : List Reply} :
      agent'.Speaks config console lines (items ++ fed.map fun line => .line (Console.tagged line))
        unsent' (said ++ more) waiting' farewell →
      unsent = fed ++ unsent' → waiting = more ++ waiting' →
      agent'.network.context = agent.network.context →
      SpeaksOn config console lines agent items unsent said waiting farewell agent'
  | left : agent'.registry.slots = [consoleSlot config console lines (.leaving 0)] →
      agent'.network.output.toList = said.map Reply.printed → agent'.network.Serves ⟨0⟩ →
      waiting = [] → farewell ≠ [] →
      SpeaksOn config console lines agent items unsent said waiting farewell agent'

/-- Nobody has a slot but the console. -/
theorem of_slot {phase : ThreadPhase String Unit} {index : Nat} {slot : Slot String Unit}
    {thread : Thread String Unit}
    (slots : agent.registry.slots = [consoleSlot config console lines phase])
    (found : agent.registry.slots[index]? = some slot) (running : slot.thread = some thread) :
    index = 0 ∧ slot = consoleSlot config console lines phase ∧
      thread = consoleThread ⟨0⟩ ⟨1⟩ config.bus (Console.worker console () lines) phase := by
  rw [slots] at found
  cases index with
  | zero =>
    obtain rfl := Option.some.inj found
    obtain rfl := Option.some.inj running
    exact ⟨rfl, rfl, rfl⟩
  | succ index => exact nomatch found

theorem Speaks.act (admits : Console.Admits console)
    (wide : 13 ≤ config.protocol.maxSourceLength.toNat) (usual : move.IsUsual)
    (speaks : agent.Speaks config console lines items unsent said waiting farewell) {index : Nat}
    {slot : Slot String Unit} {thread after : Thread String Unit} {net : Network String}
    (found : agent.registry.slots[index]? = some slot) (running : slot.thread = some thread)
    (acts : Acts printing index thread agent.network move after net) :
    SpeaksOn config console lines agent items unsent said waiting farewell
      (agent.withSlot index { slot with thread := some after } net) := by
  obtain ⟨slots, reads, between, letters, limits, output⟩ := speaks
  -- Nobody else has a thread, so it is the console that acts
  obtain ⟨rfl, rfl, rfl⟩ := of_slot slots found running
  have goes : ∃ phase', after =
        consoleThread ⟨0⟩ ⟨1⟩ config.bus (Console.worker console () lines) phase' ∧
      ConsoleGoes console ⟨0⟩ ⟨1⟩ config.protocol agent.network items unsent waiting farewell phase'
        net := by
    cases acts with
    | step stepped => exact Thread.consoleGoes_step apart reads between letters limits stepped
    | task stepped =>
      exact Thread.consoleGoes_taskStep apart admits wide reads between letters stepped
    | crash => exact usual.elim
  obtain ⟨phase', rfl, goes⟩ := goes
  have slots' : (agent.withSlot 0 (consoleSlot config console lines phase') net).registry.slots =
      [consoleSlot config console lines phase'] := by
    rw [withSlot, slots]
    rfl
  cases goes with
  | on reads' between' letters' unsent' waiting' output' context =>
    refine .on ⟨slots', reads', between', letters', ?_, ?_⟩ unsent' waiting' context
    · exact (congrArg Context.limits context).trans limits
    · rw [List.map_append, ← output]
      exact output'
  | leaves none last =>
    refine .left slots' output ?_ none last
    obtain ⟨endpoint, found, served, _⟩ := between.serves.recordDispatched ⟨1⟩
    exact ⟨endpoint, found, served⟩

end Agent

end AgentBus
