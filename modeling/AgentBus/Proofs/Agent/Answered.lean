import AgentBus.Proofs.Agent.Moves
import AgentBus.Proofs.Core.Passes

/-!
# The answers of a session

The operations on the core's endpoint answer a command when they get the shared context, which is
the first request of a pass over the command. `Answered` lists what they answer along the moves of a
session. Whether an answer is sent, and whether it is printed anywhere, is not looked at.
-/

namespace AgentBus

variable {ω σ : Type}

namespace Agent

variable {B : Behaviour ω σ} {agent : Agent ω σ} {command command' : Command} {move : Move ω}

/-- The core is about to have a command answered. -/
def Answers (agent : Agent ω σ) (command : Command) : Prop :=
  ∃ loop, (agent.phase = .serving loop ∨ agent.phase = .draining loop) ∧
    loop.work.Answers agent.core.mailbox.chain agent.core.own command

/-- The answers that the operations produce in a move: one if the core is about to have a command
answered and goes on, by the shared context as it is then. -/
inductive Answering (agent : Agent ω σ) : Move ω → List Reply → Prop where
  | answer {command : Command} : agent.Answers command →
      Answering agent (.turn .core) [.of agent.network.context command]
  | nothing {move : Move ω} : (move = .turn .core → ∀ command, ¬ agent.Answers command) →
      Answering agent move []

/-- The answers that the operations produce in a session, in order. -/
inductive Answered (B : Behaviour ω σ) (config : Config) (workers : List (Worker ω σ)) :
    List (Move ω) → List Reply → Prop where
  | nil : Answered B config workers [] []
  | snoc {moves : List (Move ω)} {move : Move ω} {replies more : List Reply} :
      Answered B config workers moves replies →
      (session B config workers moves).Answering move more →
      Answered B config workers (moves ++ [move]) (replies ++ more)

/-! ## One command at a time -/

theorem Answers.unique (answers : agent.Answers command) (answers' : agent.Answers command') :
    command = command' := by
  obtain ⟨loop, phase, route, offering⟩ := answers
  obtain ⟨loop', phase', route', offering'⟩ := answers'
  have same : loop = loop' := by
    rcases phase with serving | draining
    · rcases phase' with serving' | draining'
      · exact AgentPhase.serving.inj (serving.symm.trans serving')
      · exact nomatch serving.symm.trans draining'
    · rcases phase' with serving' | draining'
      · exact nomatch draining.symm.trans serving'
      · exact AgentPhase.draining.inj (draining.symm.trans draining')
  subst same
  have messages := (Work.offering.inj (offering.symm.trans offering')).1
  exact Payload.sendCommand.inj (Message.mk.inj messages).1

theorem Answering.unique {more more' : List Reply} (answering : agent.Answering move more)
    (answering' : agent.Answering move more') : more = more' := by
  cases answering with
  | answer answers =>
    cases answering' with
    | answer answers' => rw [answers.unique answers']
    | nothing quiet => exact absurd answers (quiet rfl _)
  | nothing quiet =>
    cases answering' with
    | answer answers' => exact absurd answers' (quiet rfl _)
    | nothing => rfl

/-- The moves tell what is answered. -/
theorem Answered.unique {config : Config} {workers : List (Worker ω σ)} {moves : List (Move ω)}
    {replies replies' : List Reply} (answered : Answered B config workers moves replies)
    (answered' : Answered B config workers moves replies') : replies = replies' := by
  induction answered generalizing replies' with
  | nil =>
    generalize none : ([] : List (Move ω)) = moves at answered'
    cases answered' with
    | nil => rfl
    | snoc => exact absurd none.symm (List.append_ne_nil_of_right_ne_nil _ (List.cons_ne_nil _ _))
  | @snoc moves move replies more _ answering ih =>
    generalize same : moves ++ [move] = all at answered'
    cases answered' with
    | nil => exact absurd same (List.append_ne_nil_of_right_ne_nil _ (List.cons_ne_nil _ _))
    | snoc answered' answering' =>
      obtain ⟨rfl, last⟩ := List.append_inj' same rfl
      obtain rfl := (List.cons.inj last).1
      rw [ih answered', answering.unique answering']

/-! ## Moves without an answer -/

/-- The core does not wait while it has a command answered. -/
theorem Answers.turn (answers : agent.Answers command) : agent.turn B .core ≠ none := by
  obtain ⟨loop, phase, route, offering⟩ := answers
  have busy : loop.step CoreHandler.behaviour agent.site ≠ .waiting := by
    intro waiting
    rw [Loop.serving_of_waiting waiting] at offering
    contradiction
  intro stuck
  simp only [Agent.turn, coreStep] at stuck
  rcases phase with serving | draining
  · rw [serving] at stuck
    dsimp only at stuck
    split at stuck
    · contradiction
    · next waiting => exact busy waiting
    · contradiction
  · rw [draining] at stuck
    dsimp only at stuck
    split at stuck
    · contradiction
    · next waiting => exact busy waiting
    · contradiction

/-- The core answers nothing when its handlers are not called. -/
theorem not_answers_of (idle : ∀ loop, agent.phase = .serving loop ∨ agent.phase = .draining loop →
    loop.work.isOffering = false) (command : Command) : ¬ agent.Answers command := by
  rintro ⟨loop, phase, route, offering⟩
  have idle := idle loop phase
  rw [offering] at idle
  contradiction

theorem not_answers_of_phase {phase : AgentPhase ω} (same : agent.phase = phase)
    (quiet : ∀ loop, phase ≠ .serving loop ∧ phase ≠ .draining loop) (command : Command) :
    ¬ agent.Answers command := by
  subst same
  exact not_answers_of (fun loop looping => absurd looping (not_or.mpr (quiet loop))) command

end Agent

end AgentBus
