import AgentBus.Proofs.Agent.Release

/-!
# The workers at a shutdown

What a shutdown means to workers that serve their mailboxes, in every run in which nobody panics:
`workers_dismissed` puts together that all of them are warned, that they stop serving, how much they
offer until then, and that nothing that waits ahead of the exit message is lost.
-/

namespace AgentBus

namespace Agent

variable {ω σ : Type}

/-- An agent was launched with workers that serve, and has made some moves in which nobody panicked.
If by then the core has sent all its exit messages, every worker that has not stopped serving has
its endpoint tearing down, has an exit message in its queue or its hand, or is offering one. Such a
worker offers at most the messages up to that exit message, and stops serving if only its thread
goes on. And whatever waits for a worker with no exit message ahead of it is offered before the
worker stops serving, unless its endpoint is torn down first. -/
theorem workers_dismissed (B : Behaviour ω σ) (config : Config) (workers : List (Worker ω σ))
    (past : List (Move ω)) (serve : ∀ worker ∈ workers, worker.Serves)
    (calm : ∀ move ∈ past, move.IsCalm) :
    let agent := session B config workers past
    ∀ (index : Nat) (thread : Thread ω σ), agent.thread? index = some thread →
      thread.isServing = true →
      (agent.phase.remaining? = some [] → thread.Doomed agent.network) ∧
      (thread.Doomed agent.network →
        (∀ moves : List (Move ω), (∀ move ∈ moves, move.IsCalm) →
          agent.offers B index moves <+: thread.due agent.network) ∧
        ∀ schedule : Nat → Move ω, Fair index schedule →
          ∃ count, (agent.moves B (opening schedule count)).isServing index = false) ∧
      ∀ (ahead behind : List Message) (message : Message), thread.work.isExiting = false →
        thread.waiting agent.network = ahead ++ message :: behind →
        ahead.any Message.isExit = false →
        ∀ moves : List (Move ω), (∀ move ∈ moves, move.IsCalm) →
          (agent.moves B moves).isServing index = false →
            ahead ++ [message] <+: agent.offers B index moves ∨
              ∃ before after, moves = before ++ after ∧
                (agent.moves B before).network.isTearingDown thread.own = true ∧
                ¬ ahead ++ [message] <+: agent.offers B index before := by
  intro agent index thread running serving
  have attended : agent.Attended := attended_session B config serve past
  refine ⟨fun dismissed => ?_, fun doomed => ⟨fun moves calm' => ?_, ?_⟩, ?_⟩
  · have warned := warned_session B config serve calm _ dismissed index thread running serving
    exact warned.resolve_left List.not_mem_nil
  · exact attended.offers_prefix_due running serving doomed calm'
  · exact attended.releases running serving doomed
  · intro ahead behind message busy waits first moves calm' ended
    refine attended.offers_ahead running serving busy ⟨behind, ?_⟩ first calm' ended
    rw [waits, List.append_assoc]
    rfl

/-! ### A shutdown -/

def listener : Worker Unit Unit where
  name := "listener"

def heedless : Behaviour Unit Unit :=
  .handling (fun _ => "heedless") fun _ handler message => .done ⟨handler, message, none⟩

/-- The core sends the worker an event, and then dismisses it. -/
def newsAtShutdown : List (Move Unit) :=
  [.turn (.worker 0), .ask (.send (.ofPayload (.event "news")) ⟨0⟩ ⟨1⟩),
    .ask (.change .requestShutdown), .turn .notice, .turn .core]

def ownTurns (count : Nat) : List (Move Unit) :=
  List.replicate count (.turn (.worker 0))

/-- The worker, already dismissed, still offers the event, and nothing after the exit message. -/
theorem workers_dismissed_news :
    ∃ thread, (session heedless {} [listener] newsAtShutdown).thread? 0 = some thread ∧
      thread.Doomed (session heedless {} [listener] newsAtShutdown).network ∧
      (session heedless {} [listener] newsAtShutdown).offers heedless 0 (ownTurns 9) <+:
        thread.due (session heedless {} [listener] newsAtShutdown).network ∧
      [(Message.ofPayload (.event "news")).routed ⟨0⟩ ⟨1⟩] <+:
        (session heedless {} [listener] newsAtShutdown).offers heedless 0 (ownTurns 6) := by
  have serve : ∀ worker ∈ [listener], worker.Serves := by
    rintro worker (_ | ⟨_, ⟨⟩⟩) post
    trivial
  have calm : ∀ move ∈ newsAtShutdown, move.IsCalm := by
    simp [newsAtShutdown, Move.IsCalm]
  have calm' (count : Nat) : ∀ move ∈ ownTurns count, move.IsCalm := by
    intro move member
    rw [(List.mem_replicate.mp member).2]
    exact Move.isCalm_turn _
  obtain ⟨thread, running, serving⟩ : ∃ thread,
      (session heedless {} [listener] newsAtShutdown).thread? 0 = some thread ∧
        thread.isServing = true := isServing_iff.mp rfl
  obtain ⟨warned, bounded, ahead⟩ :=
    workers_dismissed heedless {} [listener] newsAtShutdown serve calm 0 thread running serving
  have doomed := warned rfl
  refine ⟨thread, running, doomed, (bounded doomed).1 _ (calm' 9), ?_⟩
  obtain ⟨own, busy, waits⟩ : thread.own = ⟨1⟩ ∧ thread.work.isExiting = false ∧
      thread.waiting (session heedless {} [listener] newsAtShutdown).network =
        [(Message.ofPayload (.event "news")).routed ⟨0⟩ ⟨1⟩,
          (Message.ofPayload .exit).routed ⟨0⟩ ⟨1⟩] := by
    obtain rfl := Option.some.inj (running.symm.trans rfl)
    exact ⟨rfl, rfl, rfl⟩
  refine (ahead [] _ _ busy waits rfl (ownTurns 6) (calm' 6) rfl).resolve_right ?_
  rintro ⟨before, after, all, down, -⟩
  -- Nobody tears the endpoint down while the worker serves
  obtain ⟨length, same, -⟩ := List.append_eq_replicate_iff.mp all.symm
  have up : ∀ count < 7, ((session heedless {} [listener] newsAtShutdown).moves heedless
      (ownTurns count)).network.isTearingDown ⟨1⟩ = false := by decide
  rw [same, own] at down
  exact nomatch (up before.length (by omega)).symm.trans down

end Agent

end AgentBus
