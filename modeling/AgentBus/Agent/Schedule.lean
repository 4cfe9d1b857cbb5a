import AgentBus.Agent.Basic

/-!
# A schedule for the agent

One way to run an agent, out of the many that there are: all threads act in rounds, each once in a
round, until none can act any more.
-/

namespace AgentBus

namespace Turn

/-- The turns of a round for a number of workers, without the core's notice of a shutdown. -/
def workingRound (workers : Nat) : List Turn :=
  (List.range workers).map .worker ++ (List.range workers).map .task ++ [.core]

/-- The turns of a round for a number of workers. -/
def round (workers : Nat) : List Turn :=
  workingRound workers ++ [.notice]

end Turn

namespace Agent

variable {ω σ : Type}

/-- Runs the agent by a list of turns, and tells whether any thread acted. -/
def sweep (B : Behaviour ω σ) : List Turn → Agent ω σ → Bool × Agent ω σ
  | [], agent => (false, agent)
  | turn :: rest, agent =>
    match agent.turn B turn with
    | none => sweep B rest agent
    | some agent => (true, (sweep B rest agent).2)

/-- Repeats a round up to `fuel` times, until no thread acts. -/
def settle (B : Behaviour ω σ) (round : List Turn) : Nat → Agent ω σ → Agent ω σ
  | 0, agent => agent
  | fuel + 1, agent =>
    let swept := sweep B round agent
    if swept.1 then settle B round fuel swept.2 else swept.2

/-- Lets everybody work on what there is to be done, without stopping on request. -/
def work (B : Behaviour ω σ) (fuel : Nat) (agent : Agent ω σ) : Agent ω σ :=
  agent.settle B (Turn.workingRound agent.registry.slots.length) fuel

/-- Runs the agent as far as it goes: up to its end, or until everybody waits. -/
def run (B : Behaviour ω σ) (fuel : Nat) (agent : Agent ω σ) : Agent ω σ :=
  agent.settle B (Turn.round agent.registry.slots.length) fuel

/-- The core sends itself an exit message, if it still serves. -/
def dismissCore (agent : Agent ω σ) : Agent ω σ :=
  match agent.phase with
  | .serving _ =>
    { agent with
      network := (agent.network.send (.ofPayload .exit) agent.core.own agent.core.own).2 }
  | _ => agent

/-- Launches the agent, lets everybody work on what there is to be done, and then ends the run. -/
def runThrough (B : Behaviour ω σ) (fuel : Nat) (agent : Agent ω σ) : Agent ω σ :=
  (((agent.launch B).work B fuel).dismissCore).run B fuel

end Agent

end AgentBus
