import AgentBus.Proofs.Mailbox.LoopStep

/-!
# Drains by whole dispatches

A drain takes its steps one by one, since others may act in between. When nobody does, the steps
from one look at the queue to the next come to one dispatch (`run_taken`), and so a pump is a number
of dispatches (`run_free`), after which it has ended or goes on.
-/

namespace AgentBus

variable {ω σ : Type} {B : Behaviour ω σ}

namespace Loop

/-- More steps change nothing for a loop that has ended. -/
theorem run_ended_add {fuel : Nat} {loop : Loop ω σ} {site after : Site ω σ} {how : LoopEnd}
    (ended : loop.run B fuel site = .ended how after) (more : Nat) :
    loop.run B (fuel + more) site = .ended how after := by
  induction fuel generalizing loop site with
  | zero => exact nomatch ended
  | succ fuel ih =>
    rw [Nat.succ_add]
    unfold Loop.run at ended ⊢
    cases stepped : loop.step B site with
    | working next site' =>
      rw [stepped] at ended
      exact ih ended
    | waiting =>
      rw [stepped] at ended
      exact nomatch ended
    | ended how' site' =>
      rw [stepped] at ended
      exact ended

section Draining

variable {mode : LoopMode} (draining : mode ≠ .serving) (message : Message)
include draining

/-- A pass that has begun is carried through. -/
theorem run_offering (pass : BusProgram ω (Nat × Chain σ)) (site : Site ω σ) :
    ∃ steps, ∀ fuel, Loop.run B (fuel + steps) ⟨mode, .offering message pass⟩ site =
      Loop.run B fuel ⟨mode, .free⟩
        ((site.perform pass).2.endPass (site.perform pass).1.2) := by
  induction pass generalizing site with
  | done offered =>
    refine ⟨1, fun fuel => ?_⟩
    have stays : ¬ (mode = .serving ∧ message.isExit = true) := fun both => draining both.1
    simp only [Loop.run, Loop.step, if_neg stays]
    rfl
  | ask request next ih =>
    obtain ⟨steps, ran⟩ := ih (Network.perform request site.network).1
      (site.withNetwork (Network.perform request site.network).2)
    exact ⟨steps + 1, ran⟩

/-- A message that was taken out of the queue is dispatched. -/
theorem run_taken (site : Site ω σ) :
    ∃ steps, ∀ fuel, Loop.run B (fuel + steps) ⟨mode, .taken message⟩ site =
      Loop.run B fuel ⟨mode, .free⟩ (site.dispatch B message).2 := by
  unfold Site.dispatch
  by_cases down : site.isTearingDown = true
  · refine ⟨1, fun fuel => ?_⟩
    simp only [Loop.run, Loop.step, if_pos down]
  · obtain ⟨steps, ran⟩ := run_offering (B := B) draining message (site.pass B message) site
    refine ⟨steps + 1, fun fuel => ?_⟩
    rw [if_neg down, ← ran fuel, ← Nat.add_assoc]
    simp only [Loop.run, Loop.step, if_neg down]

end Draining

/-- A drain that finds a message dispatches it, and looks again. -/
theorem run_free {limit idle : Nat} (taken : Nat) (more : idle < limit) {site rest : Site ω σ}
    {message : Message} (took : site.take = some (message, rest)) :
    ∃ steps, ∀ fuel, Loop.run B (fuel + (steps + 1)) ⟨.draining limit idle taken, .free⟩ site =
      Loop.run B fuel ⟨.draining limit 0 (taken + 1), .free⟩ (rest.dispatch B message).2 := by
  have draining : LoopMode.draining limit 0 (taken + 1) ≠ .serving := nofun
  obtain ⟨steps, ran⟩ := run_taken (B := B) draining message rest
  refine ⟨steps, fun fuel => ?_⟩
  rw [← ran fuel, ← Nat.add_assoc]
  simp only [Loop.run, Loop.step, Loop.look, if_neg (Nat.not_le.mpr more), took]

/-- A drain that ends has dispatched the message that it has found, and ends within the steps that
are left. -/
theorem run_free_ended {limit idle taken fuel : Nat} (more : idle < limit)
    {site rest after : Site ω σ} {message : Message} {how : LoopEnd}
    (took : site.take = some (message, rest))
    (ended : Loop.run B fuel ⟨.draining limit idle taken, .free⟩ site = .ended how after) :
    ∃ left < fuel, Loop.run B left ⟨.draining limit 0 (taken + 1), .free⟩
      (rest.dispatch B message).2 = .ended how after := by
  obtain ⟨steps, reached⟩ := run_free (B := B) taken more took
  by_cases enough : steps + 1 ≤ fuel
  · obtain ⟨left, rfl⟩ := Nat.exists_eq_add_of_le' enough
    rw [reached] at ended
    exact ⟨left, by omega, ended⟩
  · -- It would have ended within its first dispatch
    have still := run_ended_add ended (steps + 1 - fuel)
    have whole : fuel + (steps + 1 - fuel) = 0 + (steps + 1) := by omega
    rw [whole, reached] at still
    exact nomatch still

end Loop

/-- The message that is taken was the oldest one, and nothing else changes. -/
theorem Site.queueAt_take {site rest : Site ω σ} {message : Message}
    (took : site.take = some (message, rest)) :
    site.network.queueAt site.own = message :: rest.network.queueAt site.own ∧
      rest.network.context = site.network.context ∧ rest.mailbox = site.mailbox := by
  obtain ⟨⟨oldest, network⟩, found, same⟩ := Option.map_eq_some_iff.mp took
  obtain ⟨rfl, rfl⟩ : oldest = message ∧ site.withNetwork network = rest := by simpa using same
  obtain ⟨queue, _, context⟩ := Network.queueAt_take found
  exact ⟨queue, context, rfl⟩

/-- A queue that holds nothing to be taken is empty. -/
theorem Site.queueAt_of_take_eq_none {site : Site ω σ} (empty : site.take = none) :
    site.network.queueAt site.own = [] := by
  cases found : site.network.endpoint? site.own with
  | none => rw [Network.queueAt, found, Option.map_none, Option.getD_none]
  | some endpoint => exact Site.take_eq_none empty found

/-- A pump that finds the queue empty ends. -/
theorem Loop.run_empty {taken : Nat} {site : Site ω σ} (empty : site.take = none) (fuel : Nat) :
    Loop.run B (fuel + 2) ⟨.draining 1 0 taken, .free⟩ site = .ended (.drained taken) site := by
  simp [Loop.run, Loop.step, Loop.look, empty]

end AgentBus
