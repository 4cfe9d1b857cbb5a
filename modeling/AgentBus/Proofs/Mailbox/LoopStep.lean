import AgentBus.Mailbox.Loop
import AgentBus.Proofs.Bus.Network

/-!
# Steps of a loop

`Loop.Goes` lists the steps of a loop, with what they lead to, and `Loop.goes_step` says that there
are no others. `WorkStep` is what they do to the work of the loop and to the network
(`workStep_of_step`, `workStep_of_ended`); a loop that has come to a send is left out there, since a
send may be taken apart.
-/

namespace AgentBus

variable {ω σ : Type} {B : Behaviour ω σ}

/-! ## Stages of work -/

/-- How far the owner of an endpoint is with a message. -/
inductive Stage where
  | idle
  | taken (message : Message)
  | offering (message : Message)
  deriving DecidableEq

def Work.stage : Work ω σ → Stage
  | .free => .idle
  | .taken message => .taken message
  | .offering message _ => .offering message

/-! ## Loops that send -/

/-- The send that a loop has come to. -/
def Loop.sending? (loop : Loop ω σ) : Option Transfer :=
  match loop.work with
  | .offering _ (.ask (.send message source destination) _) => some ⟨message, source, destination⟩
  | _ => none

/-- The loop after the send that it had come to. -/
def Loop.resume (loop : Loop ω σ) (delivery : Delivery) : Loop ω σ :=
  match loop.work with
  | .offering offered (.ask (.send _ _ _) next) =>
    { loop with work := .offering offered (next delivery) }
  | _ => loop

/-- A loop stays at its message when it learns what became of a send. -/
theorem Loop.stage_resume (loop : Loop ω σ) (delivery : Delivery) :
    (loop.resume delivery).work.stage = loop.work.stage := by
  unfold Loop.resume
  split
  · next offering => rw [offering]; rfl
  · rfl

/-! ## Taking -/

theorem Site.take_eq_some {site after : Site ω σ} {message : Message}
    (taken : site.take = some (message, after)) :
    site.network.take site.own = some (message, after.network) := by
  unfold Site.take at taken
  obtain ⟨⟨oldest, network⟩, found, same⟩ := Option.map_eq_some_iff.mp taken
  obtain ⟨rfl, rfl⟩ : oldest = message ∧ site.withNetwork network = after := by simpa using same
  exact found

theorem Site.take_eq_none {site : Site ω σ} (empty : site.take = none)
    {endpoint : Endpoint} (found : site.network.endpoint? site.own = some endpoint) :
    site.network.queueAt site.own = [] := by
  unfold Site.take Network.take at empty
  rw [found] at empty
  simp only [Option.map_eq_none_iff] at empty
  split at empty
  · next popped =>
    rw [Network.queueAt_eq found]
    exact (Queue.pop?_eq_none_iff _).mp popped
  · contradiction

/-! ## Steps of a loop -/

def LoopMode.isServing : LoopMode → Bool
  | .serving => true
  | .draining .. => false

/-- What a step of a loop leads to, case by case. -/
inductive Loop.Goes (B : Behaviour ω σ) (loop : Loop ω σ) (site : Site ω σ) :
    LoopStep ω σ → Prop where
  /-- The queue is empty; a drain looks again. -/
  | poll {limit idle taken : Nat} : loop = ⟨.draining limit idle taken, .free⟩ → idle < limit →
      site.take = none → Goes B loop site (.working ⟨.draining limit (idle + 1) taken, .free⟩ site)
  /-- The queue is empty; a serving loop waits. -/
  | wait : loop = .serving → site.isTearingDown = false → site.take = none →
      Goes B loop site .waiting
  | take {mode : LoopMode} {message : Message} {net : Network ω} : loop.work = .free →
      (loop.mode = .serving → site.isTearingDown = false) → mode.isServing = loop.mode.isServing →
      site.network.take site.own = some (message, net) →
      Goes B loop site (.working ⟨mode, .taken message⟩ (site.withNetwork net))
  | drop {message : Message} : loop.work = .taken message → site.isTearingDown = true →
      Goes B loop site (.working ⟨loop.mode, .free⟩ site.drop)
  | begin {message : Message} : loop.work = .taken message → site.isTearingDown = false →
      Goes B loop site (.working ⟨loop.mode, .offering message (site.pass B message)⟩ site)
  | ask {message : Message} {request : BusRequest ω}
      {next : request.Response → BusProgram ω (Nat × Chain σ)} :
      loop.work = .offering message (.ask request next) →
      Goes B loop site
        (.working ⟨loop.mode, .offering message (next (Network.perform request site.network).1)⟩
          (site.withNetwork (Network.perform request site.network).2))
  | finish {message : Message} {offered : Nat × Chain σ} :
      loop.work = .offering message (.done offered) →
      (loop.mode = .serving → message.isExit = false) →
      Goes B loop site (.working ⟨loop.mode, .free⟩ (site.endPass offered.2))
  | exited {message : Message} {offered : Nat × Chain σ} :
      loop = ⟨.serving, .offering message (.done offered)⟩ → message.isExit = true →
      Goes B loop site (.ended .exited (site.endPass offered.2))
  | released : loop = .serving → site.isTearingDown = true →
      Goes B loop site (.ended .released site)
  | drained {limit idle taken : Nat} : loop = ⟨.draining limit idle taken, .free⟩ → limit ≤ idle →
      Goes B loop site (.ended (.drained taken) site)

theorem Loop.goes_look (mode : LoopMode) (site : Site ω σ) :
    Goes B ⟨mode, .free⟩ site (Loop.look mode site) := by
  -- A loop that serves ends when it is told to, and one that drains when it has waited enough
  cases mode with
  | serving =>
    by_cases down : site.isTearingDown = true
    · simp only [look, Site.next, down, if_true]
      exact .released rfl down
    have up : site.isTearingDown = false := Bool.eq_false_iff.mpr down
    cases took : site.take with
    | none =>
      simp only [look, Site.next, up, took, Bool.false_eq_true, if_false]
      exact .wait rfl up took
    | some taken =>
      simp only [look, Site.next, up, took, Bool.false_eq_true, if_false]
      obtain ⟨⟨oldest, network⟩, found, rfl⟩ := Option.map_eq_some_iff.mp took
      exact .take rfl (fun _ => up) rfl found
  | draining limit idle count =>
    by_cases enough : limit ≤ idle
    · simp only [look, if_pos enough]
      exact .drained rfl enough
    cases took : site.take with
    | none =>
      simp only [look, if_neg enough, took]
      exact .poll rfl (Nat.not_le.mp enough) took
    | some taken =>
      simp only [look, if_neg enough, took]
      obtain ⟨⟨oldest, network⟩, found, rfl⟩ := Option.map_eq_some_iff.mp took
      exact .take rfl nofun rfl found

/-- Every step of a loop is one of these. -/
theorem Loop.goes_step (loop : Loop ω σ) (site : Site ω σ) :
    Goes B loop site (loop.step B site) := by
  obtain ⟨mode, work⟩ := loop
  cases work with
  | free => exact goes_look mode site
  | taken message =>
    simp only [Loop.step]
    split
    · next down => exact .drop rfl down
    · next up => exact .begin rfl (Bool.eq_false_iff.mpr up)
  | offering message pass =>
    cases pass with
    | ask request rest => exact .ask rfl
    | done offered =>
      simp only [Loop.step]
      split
      · next exits =>
        obtain ⟨rfl, exits⟩ := exits
        exact .exited rfl exits
      · next stays =>
        exact .finish rfl fun serving => Bool.eq_false_iff.mpr fun exits => stays ⟨serving, exits⟩

/-- A loop does not change from serving to draining, nor back. -/
theorem Loop.isServing_step {loop next : Loop ω σ} {site after : Site ω σ}
    (stepped : loop.step B site = .working next after) :
    next.mode.isServing = loop.mode.isServing := by
  have goes := loop.goes_step (B := B) site
  rw [stepped] at goes
  cases goes with
  | poll same =>
    subst same
    rfl
  | take _ _ same => exact same
  | drop => rfl
  | begin => rfl
  | ask => rfl
  | finish => rfl

/-- Only a serving loop waits, when it looks for its next message. -/
theorem Loop.serving_of_waiting {loop : Loop ω σ} {site : Site ω σ}
    (stepped : loop.step B site = .waiting) : loop = .serving := by
  have goes := loop.goes_step (B := B) site
  rw [stepped] at goes
  cases goes with
  | wait same => exact same

/-! ## What a step does to the network -/

/-- What a step of a loop does to its work and to the network. -/
inductive WorkStep (own : EndpointId) (net : Network ω) :
    Work ω σ → Work ω σ → Network ω → Prop where
  | idle : WorkStep own net .free .free net
  | take {message : Message} {after : Network ω} : net.take own = some (message, after) →
      WorkStep own net .free (.taken message) after
  | release {message : Message} : net.isTearingDown own = true →
      WorkStep own net (.taken message) .free (net.recordDropped own)
  | begin {message : Message} {pass : BusProgram ω (Nat × Chain σ)} :
      net.isTearingDown own = false → WorkStep own net (.taken message) (.offering message pass) net
  | request {message : Message} {request : BusRequest ω}
      {next : request.Response → BusProgram ω (Nat × Chain σ)}
      {pass : BusProgram ω (Nat × Chain σ)} :
      (∀ message source destination, request ≠ .send message source destination) →
      WorkStep own net (.offering message (.ask request next)) (.offering message pass)
        (Network.perform request net).2
  | finish {message : Message} {result : Nat × Chain σ} :
      WorkStep own net (.offering message (.done result)) .free (net.recordDispatched own)

theorem workStep_of_step {loop next : Loop ω σ} {site after : Site ω σ}
    (noSend : loop.sending? = none) (stepped : loop.step B site = .working next after) :
    WorkStep site.own site.network loop.work next.work after.network := by
  have goes := loop.goes_step (B := B) site
  rw [stepped] at goes
  cases goes with
  | poll same =>
    rw [same]
    exact .idle
  | take free _ _ taken =>
    rw [free]
    exact .take taken
  | drop taken down =>
    rw [taken]
    exact .release down
  | begin taken up =>
    rw [taken]
    exact .begin up
  | ask offering =>
    rw [offering]
    refine .request fun message source destination same => ?_
    -- The request would be a send, which the loop has not come to
    subst same
    rw [Loop.sending?, offering] at noSend
    contradiction
  | finish offering =>
    rw [offering]
    exact .finish

theorem workStep_of_ended {loop : Loop ω σ} {how : LoopEnd} {site after : Site ω σ}
    (stepped : loop.step B site = .ended how after) :
    WorkStep site.own site.network loop.work .free after.network := by
  have goes := loop.goes_step (B := B) site
  rw [stepped] at goes
  cases goes with
  | exited same =>
    rw [same]
    exact .finish
  | released same =>
    rw [same]
    exact .idle
  | drained same =>
    rw [same]
    exact .idle

/-! ## Loops that call no handler -/

def Work.isOffering : Work ω σ → Bool
  | .offering _ _ => true
  | _ => false

/-- Messages that are left over on an endpoint that is tearing down are dropped. -/
theorem Loop.isOffering_step {loop next : Loop ω σ} {site site' : Site ω σ}
    (stepped : loop.step B site = .working next site') (down : site.isTearingDown = true)
    (idle : loop.work.isOffering = false) : next.work.isOffering = false := by
  have goes := loop.goes_step (B := B) site
  rw [stepped] at goes
  cases goes with
  | poll => rfl
  | take => rfl
  | drop => rfl
  | begin _ up => exact nomatch down.symm.trans up
  | ask offering =>
    rw [offering] at idle
    contradiction
  | finish => rfl

/-- Only handlers write something to the outside, or change the chain. -/
theorem Loop.outside_step {loop next : Loop ω σ} {site site' : Site ω σ}
    (stepped : loop.step B site = .working next site') (idle : loop.work.isOffering = false) :
    site'.network.output = site.network.output ∧ site'.mailbox = site.mailbox := by
  have goes := loop.goes_step (B := B) site
  rw [stepped] at goes
  cases goes with
  | poll => exact ⟨rfl, rfl⟩
  | take _ _ _ taken => exact ⟨Network.output_take taken, rfl⟩
  | drop => exact ⟨rfl, rfl⟩
  | begin => exact ⟨rfl, rfl⟩
  | ask offering =>
    rw [offering] at idle
    contradiction
  | finish offering =>
    rw [offering] at idle
    contradiction

/-- A drain ends with the queue empty, and leaves everything as it is. -/
theorem Loop.drained_step {loop : Loop ω σ} {site site' : Site ω σ} {how : LoopEnd}
    (stepped : loop.step B site = .ended how site') (draining : loop.mode.isServing = false) :
    site' = site ∧ ∃ taken, how = .drained taken := by
  have goes := loop.goes_step (B := B) site
  rw [stepped] at goes
  cases goes with
  | exited same =>
    rw [same] at draining
    contradiction
  | released same =>
    rw [same] at draining
    contradiction
  | drained => exact ⟨rfl, _, rfl⟩

end AgentBus
