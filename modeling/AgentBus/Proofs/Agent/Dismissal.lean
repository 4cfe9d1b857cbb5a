import AgentBus.Proofs.Agent.Attended

/-!
# What a worker still does when it is dismissed

Once the core has sent all exit messages, every worker that serves is doomed (`warned_session`): its
endpoint is tearing down, or an exit message is in its queue or its hand. From then on it offers at
most the messages up to that exit message (`Attended.offers_prefix_due`). Messages that wait ahead
of all exit messages are offered before the worker stops serving, unless the endpoint is torn down
(`Attended.offers_ahead`).
-/

namespace AgentBus

variable {ω σ : Type} {B : Behaviour ω σ}

/-- The endpoints to which the core has still to send exit messages, once it has stopped serving. -/
def AgentPhase.remaining? : AgentPhase ω → Option (List EndpointId)
  | .serving _ => none
  | .dismissing remaining => some remaining
  | .joining => some []
  | .draining _ => some []
  | .finished => some []

/-- An endpoint that does not accept the exit message is tearing down. -/
theorem Network.send_exit {net : Network ω} {e : EndpointId} (serves : net.Serves e)
    (source : EndpointId) :
    net.isTearingDown e = true ∨
      ((net.send (.ofPayload .exit) source e).2.queueAt e).any Message.isExit = true := by
  cases down : net.isTearingDown e with
  | true => exact .inl rfl
  | false =>
    obtain ⟨endpoint, found, served⟩ := serves
    have accepts : net.Accepts e := ⟨endpoint, found, served, isTearingDown_eq found ▸ down⟩
    right
    rw [queueAt_send accepts ⟨.ofPayload .exit, source, e⟩, List.any_append]
    simp [Transfer.toward, Transfer.routed, Message.routed, Message.ofPayload, Message.isExit]

namespace Agent

variable {agent agent' : Agent ω σ} {index : Nat} {thread : Thread ω σ} {move : Move ω}

/-! ## Exit messages for everybody -/

/-- Every worker that serves is still to be dismissed, or is doomed. -/
def Warned (agent : Agent ω σ) : Prop :=
  ∀ remaining, agent.phase.remaining? = some remaining →
    ∀ index thread, agent.thread? index = some thread →
      thread.isServing = true → thread.own ∈ remaining ∨ thread.Doomed agent.network

theorem Attended.mem_endpoints (attended : agent.Attended)
    (running : agent.thread? index = some thread) : thread.own ∈ agent.registry.endpoints := by
  obtain ⟨slot, found, running⟩ := thread?_eq_some.mp running
  exact Agent.mem_endpoints found ((attended.placed.slot found).thread running).2.1

theorem Attended.warned (attended : agent.Attended) (warned : agent.Warned) (calm : move.IsCalm)
    (step : agent.Step B move agent') : agent'.Warned := by
  intro remaining left index after running serving
  obtain ⟨thread, running', serving', onward⟩ := attended.before calm step running serving
  have still (left : agent.phase.remaining? = some remaining) :
      after.own ∈ remaining ∨ after.Doomed agent'.network := by
    rw [onward.own]
    exact (warned _ left _ _ running' serving').imp id fun doomed => (onward.due serving doomed).1
  have dismissed := attended.mem_endpoints running'
  cases step with
  | stay => exact still left
  | act => exact still left
  | serve => contradiction
  | leave =>
    obtain rfl := Option.some.inj left
    rw [onward.own]
    exact .inl dismissed
  | notice =>
    obtain rfl := Option.some.inj left
    rw [onward.own]
    exact .inl dismissed
  | @dismiss endpoint rest dismissing =>
    obtain rfl := Option.some.inj left
    obtain rfl := Option.some.inj (running'.symm.trans running)
    have known := warned _ (by rw [dismissing]; rfl) _ _ running' serving
    rcases known with member | doomed
    · rcases List.mem_cons.mp member with rfl | later
      · -- The exit message comes into the queue, unless the endpoint is tearing down already
        have serves := (attended.placed.stands running').serves (by
          intro panicked
          rw [Thread.isServing, panicked] at serving
          contradiction)
        rcases Network.send_exit serves agent.core.own with down | queued
        · exact .inr (.inl (onward.down down))
        · refine .inr (.inr (.inr ?_))
          rw [Thread.waiting, List.any_append, queued, Bool.or_true]
      · exact .inl later
    · exact .inr (onward.due serving doomed).1
  | dismissed dismissing =>
    obtain rfl := Option.some.inj left
    exact still (by rw [dismissing]; rfl)
  | join _ idle => cases (thread?_join idle index).symm.trans running
  | drain draining =>
    obtain rfl := Option.some.inj left
    exact still (by rw [draining]; rfl)
  | close => cases running
  | ask => exact still left
  | clock => exact still left

theorem warned_launch {config : Config} {workers : List (Worker ω σ)}
    (serve : ∀ worker ∈ workers, worker.Serves) :
    ((workers.foldl register (create config)).launch B).Warned := by
  intro remaining left index thread running _
  have dismissed := (attended_launch serve).mem_endpoints running
  rw [launch_eq] at left dismissed
  split at left
  · simp only [*] at dismissed
    obtain rfl := Option.some.inj left
    exact .inl dismissed
  · contradiction

theorem warned_session (B : Behaviour ω σ) (config : Config) {workers : List (Worker ω σ)}
    (serve : ∀ worker ∈ workers, worker.Serves) {moves : List (Move ω)}
    (calm : ∀ move ∈ moves, move.IsCalm) : (session B config workers moves).Warned := by
  have both : (session B config workers moves).Attended ∧ (session B config workers moves).Warned :=
    moves_induction (P := fun agent => agent.Attended ∧ agent.Warned)
      (fun held calm step => ⟨held.1.step step, held.1.warned held.2 calm step⟩)
      ⟨attended_launch serve, warned_launch serve⟩ calm
  exact both.2

/-! ## The messages that are offered -/

/-- The messages that the worker at a position begins to offer to its chain in some moves. -/
def offers (B : Behaviour ω σ) (index : Nat) : Agent ω σ → List (Move ω) → List Message
  | _, [] => []
  | agent, move :: rest =>
    (agent.offersAt index move).toList ++ offers B index (agent.move B move) rest

theorem Attended.offers_of_ended (attended : agent.Attended) (ended : agent.isServing index = false)
    (moves : List (Move ω)) : agent.offers B index moves = [] := by
  induction moves generalizing agent with
  | nil => rfl
  | cons move rest ih =>
    obtain ⟨silent, ended'⟩ := attended.ended ended (step_move (B := B) move)
    rw [offers, silent, ih (attended.step (step_move move)) ended']
    rfl

/-- A doomed worker offers at most what was due, in order. -/
theorem Attended.offers_prefix_due (attended : agent.Attended)
    (running : agent.thread? index = some thread) (serving : thread.isServing = true)
    (doomed : thread.Doomed agent.network) {moves : List (Move ω)}
    (calm : ∀ move ∈ moves, move.IsCalm) :
    agent.offers B index moves <+: thread.due agent.network := by
  induction moves generalizing agent thread with
  | nil => exact List.nil_prefix
  | cons move rest ih =>
    rw [List.forall_mem_cons] at calm
    have step : agent.Step B move (agent.move B move) := step_move move
    obtain ⟨after, running', onward⟩ := attended.onward running serving calm.1 step
    rw [offers]
    cases still : after.isServing with
    | false =>
      have ended : (agent.move B move).isServing index = false := by
        rw [isServing, running', Option.any_some, still]
      rw [onward.silent (onward.ended still), (attended.step step).offers_of_ended ended]
      exact List.nil_prefix
    | true =>
      obtain ⟨doomed', fewer⟩ := onward.due still doomed
      have later := ih (attended.step step) running' still doomed' calm.2
      exact ((List.prefix_append_right_inj _).mpr later).trans fewer

/-- What waits ahead of all exit messages is offered before the worker stops serving, unless the
endpoint is torn down before that. -/
theorem Attended.offers_ahead (attended : agent.Attended)
    (running : agent.thread? index = some thread) (serving : thread.isServing = true)
    (busy : thread.work.isExiting = false) {ahead : List Message} {message : Message}
    (waits : ahead ++ [message] <+: thread.waiting agent.network)
    (first : ahead.any Message.isExit = false) {moves : List (Move ω)}
    (calm : ∀ move ∈ moves, move.IsCalm) (ended : (agent.moves B moves).isServing index = false) :
    ahead ++ [message] <+: agent.offers B index moves ∨
      ∃ before after, moves = before ++ after ∧
        (agent.moves B before).network.isTearingDown thread.own = true ∧
        ¬ ahead ++ [message] <+: agent.offers B index before := by
  induction moves generalizing agent thread ahead with
  | nil =>
    have served : agent.isServing index = true := isServing_iff.mpr ⟨thread, running, serving⟩
    exact nomatch served.symm.trans ended
  | cons move rest ih =>
    rw [List.forall_mem_cons] at calm
    cases down : agent.network.isTearingDown thread.own with
    | true => exact .inr ⟨[], _, rfl, down, by simp [offers]⟩
    | false =>
    have step : agent.Step B move (agent.move B move) := step_move move
    obtain ⟨after, running', onward⟩ := attended.onward running serving calm.1 step
    cases still : after.isServing with
    | false => simpa [down, busy] using onward.ended still
    | true =>
      obtain ⟨more, grown⟩ := onward.waiting still down
      have exiting := onward.exiting still
      have waits' := waits.trans (List.prefix_append _ more)
      rw [grown] at waits'
      -- What was offered comes off the messages ahead; the rest goes by the induction hypothesis
      have onwards {ahead' : List Message}
          (split : ahead ++ [message] = (agent.offersAt index move).toList ++ (ahead' ++ [message]))
          (first' : ahead'.any Message.isExit = false)
          (busy' : (agent.offersAt index move).any Message.isExit = false) :
          ahead ++ [message] <+: agent.offers B index (move :: rest) ∨
            ∃ before after, move :: rest = before ++ after ∧
              (agent.moves B before).network.isTearingDown thread.own = true ∧
              ¬ ahead ++ [message] <+: agent.offers B index before := by
        rw [split, List.prefix_append_right_inj] at waits'
        rw [busy, busy', Bool.false_or] at exiting
        have later := ih (attended.step step) running' still exiting waits' first' calm.2 ended
        rw [split, offers, List.prefix_append_right_inj]
        refine later.imp id fun ⟨before, behind, all, down', missing⟩ => ?_
        refine ⟨move :: before, behind, by rw [all, List.cons_append], onward.own ▸ down', ?_⟩
        rw [offers, List.prefix_append_right_inj]
        exact missing
      cases begun : agent.offersAt index move with
      | none => exact onwards (by rw [begun]; rfl) first (by rw [begun]; rfl)
      | some offered =>
        rw [begun] at waits'
        cases ahead with
        | nil =>
          obtain rfl : message = offered := (List.cons_prefix_cons.mp waits').1
          left
          rw [offers, begun]
          exact List.prefix_append [message] _
        | cons oldest ahead =>
          obtain rfl : oldest = offered := (List.cons_prefix_cons.mp waits').1
          rw [List.any_cons, Bool.or_eq_false_iff] at first
          exact onwards (by rw [begun]; rfl) first.2 (by rw [begun]; exact first.1)

end Agent

end AgentBus
