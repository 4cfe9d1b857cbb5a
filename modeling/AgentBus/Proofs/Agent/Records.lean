import AgentBus.Proofs.Agent.Notebooks
import Mathlib.Data.List.Induction

/-!
# What a running agent calls of its workers

The notebooks of the workers agree with where the slots stand (`Agent.Tells`), in every move that an
agent makes. When it closes, the workers that are still there are deinitialized, and from then on
the notebooks stay as they are (`Agent.Told`).
-/

namespace AgentBus

variable {ω ν σ : Type}

/-! ## Quiet requests -/

theorem BusRequest.Plain.quiet {request : BusRequest (ω ⊕ ν)} (plain : request.Plain) :
    request.Quiet := by
  cases request with
  | emit => exact plain.elim
  | send => trivial
  | look => trivial
  | tearDown => trivial
  | context => trivial
  | change => trivial

theorem Network.Touch.notes_of_plain {net net' : Network (ω ⊕ ν)} {own : EndpointId}
    (touch : Touch BusRequest.Plain own net net') : net'.notes = net.notes :=
  (touch.mono fun _ plain => plain.quiet).notes

/-! ## Slots -/

namespace Slot

variable {number : Nat} {calls : List WorkerCall}
variable {slot : Slot (ω ⊕ WorkerNote) σ} {net : Network (ω ⊕ WorkerNote)}

theorem Record.lost_join (record : slot.Record number calls) : slot.join.Lost ↔ slot.Lost := by
  cases record with
  | registered => exact Iff.rfl
  | prepared => exact Iff.rfl
  | @running name endpoint thread _ record =>
    obtain ⟨worker, context, phase⟩ := thread
    cases phase with
    | opening main => exact Iff.rfl
    | looping loop task code => exact Iff.rfl
    | leaving code => exact Iff.rfl
    | returned code => exact ⟨nofun, fun lost => nomatch lost.panicked_of_thread rfl⟩
    | panicked => exact ⟨fun _ => .panicked rfl, fun _ => .stopped⟩
  | stopped => exact Iff.rfl
  | lost calls => exact Iff.rfl
  | released => exact Iff.rfl
  | deinitialized => exact Iff.rfl
  | withdrawn calls => exact Iff.rfl

/-- What a slot without a thread shows of its worker's notes, state by state. -/
def Shows (slot : Slot (ω ⊕ WorkerNote) σ) (calls : List WorkerCall) : Prop :=
  match slot.state with
  | .registered => calls = [] ∧ slot.context.isSome = false ∧ slot.thread = none
  | .prepared => calls = [.init] ∧ slot.context.isSome = true ∧ slot.thread = none
  | .running => slot.thread.isSome = true
  | .stopped =>
    slot.thread = none ∧ (slot.Lost ∧ slot.context.isSome = false ∨
      ¬ slot.Lost ∧ calls = [.init, .main] ∧ slot.context.isSome = true)
  | .deinitialized => slot.thread = none

theorem Record.shows (record : slot.Record number calls) : slot.Shows calls := by
  cases record with
  | registered => exact ⟨rfl, rfl, rfl⟩
  | prepared => exact ⟨rfl, rfl, rfl⟩
  | running => rfl
  | stopped => exact ⟨rfl, .inr ⟨nofun, rfl, rfl⟩⟩
  | lost => exact ⟨rfl, .inl ⟨.stopped, rfl⟩⟩
  | released => rfl
  | deinitialized => rfl
  | withdrawn => rfl

theorem Lost.not_waiting (gone : slot.Lost) :
    slot.state ≠ .prepared ∧ slot.state ≠ .registered := by
  cases gone with
  | panicked => exact ⟨nofun, nofun⟩
  | stopped => exact ⟨nofun, nofun⟩
  | deinitialized => exact ⟨nofun, nofun⟩

theorem Record.state_join (record : slot.Record number calls) (running : slot.state = .running)
    (idle : slot.isBusy = false) : slot.join.state = .stopped := by
  cases record with
  | @running name endpoint thread _ record =>
    obtain ⟨worker, context, phase⟩ := thread
    cases phase with
    | returned code => rfl
    | panicked => rfl
    | opening main => contradiction
    | looping loop task code => contradiction
    | leaving code => contradiction
  | _ => contradiction

/-- A worker that was just started is not lost. -/
theorem Record.not_lost_start (record : slot.Record number calls)
    (prepared : slot.state = .prepared) :
    slot.start.state = .running ∧ ¬ slot.start.Lost := by
  cases record with
  | prepared => exact ⟨rfl, fun lost => nomatch lost.panicked_of_thread rfl⟩
  | _ => contradiction

end Slot

/-! ## Agents -/

/-- A move in which nobody outside takes notes. -/
def Move.Quiet (move : Move (ω ⊕ ν)) : Prop :=
  ∀ request, move = .ask request → request.Quiet

/-- What was called of the workers of an agent, all in all. Of the first `count` workers, `init` was
called; `failed` says that one of them failed, and `lost` whose `main` panicked. -/
structure Network.Calls (count : Nat) (failed : Prop) (lost : Nat → Prop)
    (net : Network (ω ⊕ WorkerNote)) : Prop where
  uncalled : ∀ index, count ≤ index → net.callsOf index = []
  unstarted : failed → ∀ index < count, net.callsOf index = [.init, .deinit]
  panicked : ¬ failed → ∀ index < count, lost index → net.callsOf index = [.init, .main]
  returned : ¬ failed → ∀ index < count, ¬ lost index →
    net.callsOf index = [.init, .main, .deinit]

namespace Agent

variable {B : Behaviour (ω ⊕ WorkerNote) σ} {count total : Nat} {lost lost' : Nat → Prop}
variable {agent agent' : Agent (ω ⊕ WorkerNote) σ} {move : Move (ω ⊕ WorkerNote)}

/-- The state of the worker at a position, where `init` was called of the first `count`. -/
def stage (agent : Agent (ω ⊕ WorkerNote) σ) (count index : Nat) : WorkerState :=
  if agent.failure.isSome then if index < count then .prepared else .registered
  else if agent.isClosing then .stopped else .running

/-- The notebooks of a running agent agree with its slots. -/
structure Tells (count total : Nat) (lost : Nat → Prop) (agent : Agent (ω ⊕ WorkerNote) σ) :
    Prop where
  going : agent.phase ≠ .finished
  bound : count ≤ total
  all : agent.failure = none → count = total
  length : agent.registry.slots.length = total
  logged : agent.registry.Logged agent.network
  stage : ∀ {index : Nat} {slot : Slot (ω ⊕ WorkerNote) σ},
    agent.registry.slots[index]? = some slot → slot.state = agent.stage count index
  lost : ∀ {index : Nat} {slot : Slot (ω ⊕ WorkerNote) σ},
    agent.registry.slots[index]? = some slot → (slot.Lost ↔ lost index)
  called : ∀ {index : Nat} {slot : Slot (ω ⊕ WorkerNote) σ},
    agent.registry.slots[index]? = some slot → slot.Lost →
      agent.network.callsOf index = [.init, .main]

structure Told (count total : Nat) (lost : Nat → Prop) (agent : Agent (ω ⊕ WorkerNote) σ) :
    Prop where
  phase : agent.phase = .finished
  registry : agent.registry.slots = []
  calls : agent.network.Calls count (agent.failure.isSome = true) lost

/-- Those who have panicked by now are those who had before, and whose threads just did. -/
def Updates (lost lost' : Nat → Prop) (agent : Agent ω σ) : Prop :=
  ∀ index, lost' index ↔
    lost index ∨ ∃ thread, agent.thread? index = some thread ∧ thread.phase = .panicked

/-- Who is lost after a step is told by the slot and its thread. -/
theorem Updates.lost_iff (updates : Updates lost lost' agent')
    (logged : agent'.registry.Logged agent'.network) {index : Nat}
    {slot : Slot (ω ⊕ WorkerNote) σ} (found : agent'.registry.slots[index]? = some slot)
    (was : lost index → slot.Lost)
    (now : slot.Lost →
      lost index ∨ ∃ thread, slot.thread = some thread ∧ thread.phase = .panicked) :
    slot.Lost ↔ lost' index := by
  rw [updates index]
  constructor
  · intro gone
    refine (now gone).imp id fun ⟨thread, running, panicked⟩ => ⟨thread, ?_, panicked⟩
    exact thread?_eq_some.mpr ⟨slot, found, running⟩
  · rintro (before | ⟨thread, running, panicked⟩)
    · exact was before
    · obtain ⟨_, found', running⟩ := thread?_eq_some.mp running
      obtain rfl := Option.some.inj (found.symm.trans found')
      exact (logged.record found).lost_of_panicked running panicked

/-- Without threads, nobody panics. -/
theorem Updates.eq_of_nobody {agent : Agent ω σ} (updates : Updates lost lost' agent)
    (nobody : agent.registry.slots = []) : lost' = lost := by
  funext index
  refine propext ((updates index).trans ⟨?_, .inl⟩)
  rintro (before | ⟨thread, running, -⟩)
  · exact before
  · rw [thread?, nobody] at running
    contradiction

/-! ### Steps -/

theorem callsOf_eq {net net' : Network (ω ⊕ WorkerNote)} (same : net'.notes = net.notes)
    (index : Nat) : net'.callsOf index = net.callsOf index := by
  rw [Network.callsOf, same, Network.callsOf]

/-- What is no affair of the workers. -/
theorem Tells.apart (tells : agent.Tells count total lost) (updates : Updates lost lost' agent')
    (registry : agent'.registry = agent.registry) (failure : agent'.failure = agent.failure)
    (notes : agent'.network.notes = agent.network.notes) (going : agent'.phase ≠ .finished)
    (closing : agent'.isClosing = agent.isClosing) : agent'.Tells count total lost' := by
  have logged : agent'.registry.Logged agent'.network := by
    rw [registry]
    exact tells.logged.of_same_notes notes
  refine ⟨going, tells.bound, fun fine => tells.all (failure ▸ fine), ?_, logged, ?_, ?_, ?_⟩
  · rw [registry]
    exact tells.length
  · intro index slot found
    rw [registry] at found
    rw [Agent.stage, failure, closing]
    exact tells.stage found
  · intro index slot found
    refine updates.lost_iff logged found ?_ ?_
    · rw [registry] at found
      exact (tells.lost found).mpr
    · rw [registry] at found
      exact fun gone => .inl ((tells.lost found).mp gone)
  · intro index slot found gone
    rw [registry] at found
    rw [callsOf_eq notes]
    exact tells.called found gone

theorem Acts.slotStep {index : Nat} {core : EndpointId} {outside : Outside (ω ⊕ WorkerNote) σ}
    {slot : Slot (ω ⊕ WorkerNote) σ} {thread after : Thread (ω ⊕ WorkerNote) σ}
    {net net' : Network (ω ⊕ WorkerNote)} (acts : Acts B index thread net move after net')
    (running : slot.thread = some thread) :
    slot.Step B core outside net { slot with thread := some after } net' := by
  cases acts with
  | step stepped => exact .work running stepped
  | task stepped => exact .task running stepped
  | crash stepped =>
    obtain ⟨working, rfl, rfl⟩ := Thread.crash_eq_some stepped
    refine .crash running ?_
    obtain ⟨worker, context, phase⟩ := thread
    cases phase with
    | looping => rfl
    | leaving => rfl
    | _ => contradiction

/-- A thread panics in `main`, after it was called. -/
theorem Acts.called {index number : Nat} {calls : List WorkerCall}
    {thread after : Thread (ω ⊕ WorkerNote) σ} {net net' : Network (ω ⊕ WorkerNote)}
    (quiet : B.Quiet)
    (acts : Acts B index thread net move after net') (record : thread.Record number calls)
    (panicked : after.phase = .panicked) : calls = [.init, .main] ∧ net'.notes = net.notes := by
  cases record with
  | opening =>
    cases acts with
    | step stepped =>
      obtain ⟨rfl, rfl⟩ := Prod.mk.inj (Option.some.inj stepped)
      contradiction
    | task stepped => contradiction
    | crash stepped => contradiction
  | called worker quietPhase =>
    refine ⟨rfl, ?_⟩
    cases acts with
    | step stepped => exact (Thread.quiet_step quiet quietPhase stepped).2
    | task stepped => exact (Thread.quiet_taskStep quietPhase stepped).2
    | crash stepped =>
      obtain ⟨-, rfl, rfl⟩ := Thread.crash_eq_some stepped
      rfl
  | crashed gone => exact absurd gone acts.not_panicked

theorem Tells.act (quiet : B.Quiet) (tells : agent.Tells count total lost) {index : Nat}
    {slot : Slot (ω ⊕ WorkerNote) σ} {thread after : Thread (ω ⊕ WorkerNote) σ}
    {net : Network (ω ⊕ WorkerNote)} (found : agent.registry.slots[index]? = some slot)
    (running : slot.thread = some thread) (acts : Acts B index thread agent.network move after net)
    (updates : Updates lost lost' (agent.withSlot index { slot with thread := some after } net)) :
    (agent.withSlot index { slot with thread := some after } net).Tells count total lost' := by
  have step : slot.Step B agent.core.own .noting agent.network { slot with thread := some after }
      net := acts.slotStep running
  have logged : Registry.Logged ⟨agent.registry.slots.set index { slot with thread := some after }⟩
      net := tells.logged.step quiet (.slot found step)
  have standing : ¬ slot.Lost := fun gone =>
    acts.not_panicked (gone.panicked_of_thread running)
  have told : thread.Record index (agent.network.callsOf index) :=
    ((tells.logged.record found).of_thread running).1
  refine ⟨tells.going, tells.bound, tells.all, ?_, logged, ?_, ?_, ?_⟩
  · exact List.length_set.trans tells.length
  · intro other slot' found'
    rcases Registry.slots_set_eq_some found' with ⟨rfl, rfl⟩ | ⟨_, old⟩
    · have state : slot.state = agent.stage count other := tells.stage found
      exact state
    · exact tells.stage old
  · intro other slot' found'
    refine updates.lost_iff logged found' ?_ ?_
    · intro before
      rcases Registry.slots_set_eq_some found' with ⟨rfl, rfl⟩ | ⟨_, old⟩
      · exact absurd ((tells.lost found).mpr before) standing
      · exact (tells.lost old).mpr before
    · intro gone
      rcases Registry.slots_set_eq_some found' with ⟨rfl, rfl⟩ | ⟨_, old⟩
      · exact .inr ⟨after, rfl, gone.panicked_of_thread rfl⟩
      · exact .inl ((tells.lost old).mp gone)
  · intro other slot' found' gone
    rcases Registry.slots_set_eq_some found' with ⟨rfl, rfl⟩ | ⟨different, old⟩
    · obtain ⟨calls, notes⟩ := acts.called quiet told (gone.panicked_of_thread rfl)
      exact (callsOf_eq notes other).trans calls
    · -- The notes of one worker are no notes of another
      obtain ⟨new, grown, _⟩ := step.noted quiet (tells.logged.record found)
      refine (Network.callsOf_append grown other).trans ?_
      rw [if_neg different, List.append_nil]
      exact tells.called old gone

/-- Where `init` failed no thread was started, so nothing is joined. Else all workers stop. -/
theorem Tells.state_join (tells : agent.Tells count total lost) (joining : agent.phase = .joining)
    (idle : agent.registry.isBusy = false) {index : Nat} {slot : Slot (ω ⊕ WorkerNote) σ}
    (found : agent.registry.slots[index]? = some slot) :
    slot.join.state =
      if agent.failure.isSome then if index < count then .prepared else .registered
      else .stopped := by
  have record := tells.logged.record found
  have state := tells.stage found
  cases failed : agent.failure.isSome with
  | true =>
    rw [Agent.stage, failed, if_pos rfl] at state
    have none : slot.thread = none := by
      have shows := record.shows
      split at state
      · rw [Slot.Shows, state] at shows
        exact shows.2.2
      · rw [Slot.Shows, state] at shows
        exact shows.2.2
    rw [slot.join_of_none none, if_pos rfl, state]
  | false =>
    have going : agent.isClosing = false := by rw [isClosing, joining]
    rw [Agent.stage, failed, if_neg Bool.false_ne_true, going, if_neg Bool.false_ne_true] at state
    rw [Registry.isBusy, List.any_eq_false] at idle
    rw [if_neg Bool.false_ne_true]
    exact record.state_join state (Bool.eq_false_iff.mpr (idle slot (List.mem_of_getElem? found)))

theorem Tells.join (quiet : B.Quiet) (tells : agent.Tells count total lost)
    (joining : agent.phase = .joining) (idle : agent.registry.isBusy = false)
    {net : Network (ω ⊕ WorkerNote)} (notes : net.notes = agent.network.notes)
    {loop : Loop (ω ⊕ WorkerNote) CoreHandler}
    (updates : Updates lost lost'
      { agent with registry := agent.registry.stop, network := net, phase := .draining loop }) :
    Tells count total lost'
      { agent with registry := agent.registry.stop, network := net, phase := .draining loop } := by
  have run : Registry.Run B agent.core.own .noting agent.registry agent.network agent.registry.stop
      agent.network := Registry.run_map (fun _ => .join) [] agent.registry.slots
  have logged := (tells.logged.run quiet run).of_same_notes notes
  have split {index : Nat} {slot' : Slot (ω ⊕ WorkerNote) σ}
      (found' : agent.registry.stop.slots[index]? = some slot') :
      ∃ slot, agent.registry.slots[index]? = some slot ∧ slot' = slot.join := by
    rw [Registry.stop, List.getElem?_map] at found'
    obtain ⟨slot, found, rfl⟩ := Option.map_eq_some_iff.mp found'
    exact ⟨slot, found, rfl⟩
  refine ⟨by simp, tells.bound, tells.all, ?_, logged, ?_, ?_, ?_⟩
  · exact (List.length_map _).trans tells.length
  · intro index slot' found'
    obtain ⟨slot, found, rfl⟩ := split found'
    exact tells.state_join joining idle found
  · intro index slot' found'
    refine updates.lost_iff logged found' ?_ ?_
    · intro before
      obtain ⟨slot, found, rfl⟩ := split found'
      exact (tells.logged.record found).lost_join.mpr ((tells.lost found).mpr before)
    · intro gone
      obtain ⟨slot, found, rfl⟩ := split found'
      exact .inl ((tells.lost found).mp ((tells.logged.record found).lost_join.mp gone))
  · intro index slot' found' gone
    obtain ⟨slot, found, rfl⟩ := split found'
    rw [callsOf_eq notes]
    exact tells.called found ((tells.logged.record found).lost_join.mp gone)

/-! ### The end -/

/-- What is shown of a worker whose `init` was called. -/
theorem Tells.slot (tells : agent.Tells count total lost) {index : Nat} (bound : index < count) :
    ∃ slot, agent.registry.slots[index]? = some slot ∧ slot.state = agent.stage count index ∧
      slot.Shows (agent.network.callsOf index) := by
  have bound' : index < agent.registry.slots.length := by
    have := tells.bound
    have := tells.length
    omega
  have found := List.getElem?_eq_getElem bound'
  exact ⟨_, found, tells.stage found, (tells.logged.record found).shows⟩

/-- Nothing was called of the others, which never had a context. -/
theorem Tells.uncalled (tells : agent.Tells count total lost) {index : Nat}
    (beyond : count ≤ index) :
    agent.network.callsOf index = [] ∧
      (agent.registry.slots[index]?).any (·.context.isSome) = false := by
  cases found : agent.registry.slots[index]? with
  | none => exact ⟨tells.logged.nobody (List.getElem?_eq_none_iff.mp found), rfl⟩
  | some slot =>
    have bound := (List.getElem?_eq_some_iff.mp found).1
    have failed : agent.failure.isSome = true := by
      rw [Option.isSome_iff_ne_none]
      intro fine
      have := tells.all fine
      have := tells.length
      omega
    have state := tells.stage found
    rw [Agent.stage, if_pos failed, if_neg (by omega)] at state
    have shows := (tells.logged.record found).shows
    rw [Slot.Shows, state] at shows
    exact ⟨shows.1, shows.2.1⟩

theorem Tells.calls (quiet : B.Quiet) (tells : agent.Tells count total lost)
    (closing : agent.isClosing = true) {net net' : Network (ω ⊕ WorkerNote)}
    (before : net.notes = agent.network.notes)
    (after : net'.notes = (Registry.deinitSlots B agent.registry.slots net).2.notes) :
    net'.Calls count (agent.failure.isSome = true) lost := by
  -- Who still has a context is deinitialized, which is told by the slot
  have called (index : Nat) :
      net'.callsOf index = agent.network.callsOf index ++
        if (agent.registry.slots[index]?).any (·.context.isSome) then [.deinit] else [] := by
    rw [callsOf_eq after, tells.logged.callsOf_deinit quiet, callsOf_eq before]
  constructor
  · intro index beyond
    obtain ⟨calls, context⟩ := tells.uncalled beyond
    rw [called, calls, context]
    rfl
  · intro failed index bound
    obtain ⟨slot, found, state, shows⟩ := tells.slot bound
    rw [Agent.stage, if_pos failed, if_pos bound] at state
    rw [Slot.Shows, state] at shows
    rw [called, found, shows.1, Option.any_some, if_pos shows.2.1]
    rfl
  · intro fine index bound gone
    obtain ⟨slot, found, state, shows⟩ := tells.slot bound
    rw [Agent.stage, if_neg fine, if_pos closing] at state
    rw [Slot.Shows, state] at shows
    have gone := (tells.lost found).mpr gone
    rcases shows.2 with ⟨-, context⟩ | ⟨standing, -⟩
    · rw [called, found, tells.called found gone, Option.any_some, context]
      rfl
    · exact absurd gone standing
  · intro fine index bound standing
    obtain ⟨slot, found, state, shows⟩ := tells.slot bound
    rw [Agent.stage, if_neg fine, if_pos closing] at state
    rw [Slot.Shows, state] at shows
    rcases shows.2 with ⟨gone, -⟩ | ⟨-, calls, context⟩
    · exact absurd ((tells.lost found).mp gone) standing
    · rw [called, found, calls, Option.any_some, if_pos context]
      rfl

theorem notes_teardown {registry : Registry (ω ⊕ WorkerNote) σ} (net : Network (ω ⊕ WorkerNote)) :
    (registry.teardown net).notes = net.notes := by
  have discarded (slot : Slot (ω ⊕ WorkerNote) σ) (net : Network (ω ⊕ WorkerNote)) :
      (slot.discard net).notes = net.notes := by
    unfold Slot.discard Slot.dropContext
    split <;> split <;> rfl
  unfold Registry.teardown
  induction registry.slots generalizing net with
  | nil => rfl
  | cons slot rest ih => exact (ih _).trans (discarded slot net)

theorem Tells.close (quiet : B.Quiet) (tells : agent.Tells count total lost)
    {loop : Loop (ω ⊕ WorkerNote) CoreHandler} {how : LoopEnd}
    {site : Site (ω ⊕ WorkerNote) CoreHandler} (draining : agent.phase = .draining loop)
    (ended : loop.step CoreHandler.behaviour agent.site = .ended how site)
    (updates : Updates lost lost' ((agent.after site).close B)) :
    ((agent.after site).close B).Told count total lost' := by
  have closing : agent.isClosing = true := by rw [isClosing, draining]
  have left : site.network.notes = agent.network.notes := Loop.notes_of_ended ended
  have finished := (keeps_finishHandlers (agent.after site).site).touch.notes_of_plain
  rw [updates.eq_of_nobody rfl]
  exact ⟨rfl, rfl, tells.calls quiet closing (finished.trans left) (notes_teardown _)⟩

/-! ### All steps -/

theorem Tells.step (quiet : B.Quiet) (tells : agent.Tells count total lost)
    (plain : agent.phase.Plain) (silent : move.Quiet) (step : agent.Step B move agent')
    (updates : Updates lost lost' agent') :
    agent'.Tells count total lost' ∨ agent'.Told count total lost' := by
  have looped {loop next : Loop (ω ⊕ WorkerNote) CoreHandler}
      {site : Site (ω ⊕ WorkerNote) CoreHandler}
      (stepped : loop.step CoreHandler.behaviour agent.site = .working next site)
      (makes : loop.work.Makes BusRequest.Plain) : site.network.notes = agent.network.notes :=
    (Loop.keeps_step stepped CoreHandler.makes_behaviour BusRequest.common_plain
      makes).touch.notes_of_plain
  cases step with
  | stay => exact .inl (tells.apart updates rfl rfl rfl tells.going rfl)
  | act found running acts => exact .inl (tells.act quiet found running acts updates)
  | serve serving stepped =>
    rw [serving] at plain
    refine .inl (tells.apart updates rfl rfl (looped stepped plain)
      (fun finished => by cases finished) ?_)
    rw [isClosing, isClosing, serving]
  | leave serving ended =>
    refine .inl (tells.apart updates rfl rfl (Loop.notes_of_ended ended)
      (fun finished => by cases finished) ?_)
    rw [isClosing, isClosing, serving]
    rfl
  | notice serving =>
    refine .inl (tells.apart updates rfl rfl rfl (fun finished => by cases finished) ?_)
    rw [isClosing, isClosing, serving]
    rfl
  | dismiss dismissing =>
    refine .inl (tells.apart updates rfl rfl (Network.notes_send _ _ _ _)
      (fun finished => by cases finished) ?_)
    rw [isClosing, isClosing, dismissing]
  | dismissed dismissing =>
    refine .inl (tells.apart updates rfl rfl rfl (fun finished => by cases finished) ?_)
    rw [isClosing, isClosing, dismissing]
  | join joining idle =>
    have notes : (agent.network.tearDown agent.core.own).notes = agent.network.notes := rfl
    exact .inl (tells.join quiet joining idle notes updates)
  | drain draining stepped =>
    rw [draining] at plain
    refine .inl (tells.apart updates rfl rfl (looped stepped plain)
      (fun finished => by cases finished) ?_)
    rw [isClosing, isClosing, draining]
  | close draining ended => exact .inr (tells.close quiet draining ended updates)
  | ask request =>
    exact .inl (tells.apart updates rfl rfl (Network.notes_perform (silent request rfl) _)
      tells.going rfl)
  | clock => exact .inl (tells.apart updates rfl rfl rfl tells.going rfl)

theorem Told.step (told : agent.Told count total lost) (silent : move.Quiet)
    (step : agent.Step B move agent') (updates : Updates lost lost' agent') :
    agent'.Told count total lost' := by
  obtain ⟨finished, nobody, calls⟩ := told
  have still {net : Network (ω ⊕ WorkerNote)} (notes : net.notes = agent.network.notes) :
      net.Calls count (agent.failure.isSome = true) lost :=
    ⟨fun index => callsOf_eq notes index ▸ calls.uncalled index,
      fun failed index => callsOf_eq notes index ▸ calls.unstarted failed index,
      fun fine index => callsOf_eq notes index ▸ calls.panicked fine index,
      fun fine index => callsOf_eq notes index ▸ calls.returned fine index⟩
  rcases step_of_finished finished nobody step with rfl | ⟨request, rfl, rfl⟩ | ⟨seconds, rfl⟩
  · rw [updates.eq_of_nobody nobody]
    exact ⟨finished, nobody, calls⟩
  · rw [updates.eq_of_nobody nobody]
    exact ⟨finished, nobody, still (Network.notes_perform (silent request rfl) _)⟩
  · rw [updates.eq_of_nobody nobody]
    exact ⟨finished, nobody, still rfl⟩

/-! ### Launched agents -/

/-- The workers of an agent whose `main` has panicked. -/
def Panicked (B : Behaviour ω σ) (config : Config) (workers : List (Worker ω σ))
    (moves : List (Move ω)) (index : Nat) : Prop :=
  ∃ past, past <+: moves ∧
    ∃ thread, (session B config workers past).thread? index = some thread ∧
      thread.phase = .panicked

section Launching

variable (B : Behaviour ω σ) (config : Config) (workers : List (Worker ω σ))

theorem updates_snoc (past : List (Move ω)) (move : Move ω) (index : Nat) :
    Panicked B config workers (past ++ [move]) index ↔
      Panicked B config workers past index ∨
        ∃ thread, (session B config workers (past ++ [move])).thread? index = some thread ∧
          thread.phase = .panicked := by
  constructor
  · rintro ⟨first, ahead, panicked⟩
    rcases List.prefix_concat_iff.mp ahead with rfl | earlier
    · exact .inr panicked
    · exact .inl ⟨first, earlier, panicked⟩
  · rintro (⟨first, ahead, panicked⟩ | panicked)
    · exact ⟨first, ahead.trans (List.prefix_append _ _), panicked⟩
    · exact ⟨_, List.prefix_rfl, panicked⟩

theorem logged_registered {net : Network (ω ⊕ WorkerNote)} (silent : net.notes = []) :
    Registry.Logged ⟨(notingAll workers).map Slot.ofWorker⟩ net := by
  have nothing (index : Nat) : net.callsOf index = [] := by
    rw [Network.callsOf, silent]
    rfl
  refine ⟨?_, fun _ => nothing _⟩
  intro index slot found
  rw [notingAll, List.getElem?_map, List.getElem?_mapIdx, Option.map_map] at found
  obtain ⟨worker, -, rfl⟩ := Option.map_eq_some_iff.mp found
  rw [nothing]
  exact .registered

theorem logged_prepared :
    Registry.Logged ⟨(prepared B.widen config (notingAll workers)).2.1⟩
      (prepared B.widen config (notingAll workers)).2.2 := by
  have silent : (foundation config : Agent (ω ⊕ WorkerNote) σ).network.notes = [] := rfl
  exact (logged_registered workers silent).run B.quiet_widen (Registry.run_prepareSlots [] _ _)

theorem updates_launch {agent : Agent ω σ} (launched : session B config workers [] = agent) :
    Updates (fun _ => False) (Panicked B config workers []) agent := by
  subst launched
  intro index
  constructor
  · rintro ⟨past, ahead, panicked⟩
    obtain rfl := List.prefix_nil.mp ahead
    exact .inr panicked
  · rintro (no | panicked)
    · exact no.elim
    · exact ⟨[], List.prefix_rfl, panicked⟩

theorem tells_launch :
    Tells (setups B config workers).length workers.length
      (Panicked B.widen config (notingAll workers) [])
      (session B.widen config (notingAll workers) []) := by
  have walk := walk_prepared B.widen config (notingAll workers)
  rw [setups_notingAll] at walk
  have upTo := walk.upToFailure
  obtain ⟨length, states⟩ := walk.states
  have logged := logged_prepared B config workers
  have total : (notingAll workers).length = workers.length := List.length_mapIdx
  have updates := updates_launch B.widen config (notingAll workers) rfl
  rw [total] at length
  have launched := @launch_eq _ _ B.widen config (notingAll workers)
  change session B.widen config (notingAll workers) [] = _ at launched
  rw [launched] at updates ⊢
  clear launched
  generalize (prepared B.widen config (notingAll workers)) = ready at *
  generalize (setups B config workers) = results at *
  -- Where an `init` failed no thread is started, and otherwise all of them are
  split at updates
  · next error failed =>
    have never {slot : Slot (ω ⊕ WorkerNote) σ} (member : slot ∈ ready.2.1) : ¬ slot.Lost := by
      obtain ⟨index, found⟩ := List.getElem?_of_mem member
      have state := states index slot found
      intro gone
      split at state
      · exact gone.not_waiting.1 state
      · exact gone.not_waiting.2 state
    refine ⟨nofun, total ▸ upTo.bound, fun none => (nomatch none), length, logged, ?_, ?_, ?_⟩
    · intro index slot found
      exact states index slot found
    · intro index slot found
      exact updates.lost_iff logged found False.elim fun gone =>
        absurd gone (never (List.mem_of_getElem? found))
    · intro index slot found gone
      exact absurd gone (never (List.mem_of_getElem? found))
  · next fine =>
    obtain ⟨all, -⟩ := upTo.fine fine
    rw [total] at all
    have run : Registry.Run B.widen ⟨0⟩ .noting ⟨ready.2.1⟩ ready.2.2
        (Registry.start ⟨ready.2.1⟩) ready.2.2 := Registry.run_map (fun _ => .start) [] ready.2.1
    have started := logged.run B.quiet_widen run
    have standing {index : Nat} {slot : Slot (ω ⊕ WorkerNote) σ}
        (found : (ready.2.1.map Slot.start)[index]? = some slot) :
        slot.state = .running ∧ ¬ slot.Lost := by
      rw [List.getElem?_map] at found
      obtain ⟨old, found', rfl⟩ := Option.map_eq_some_iff.mp found
      have bound := (List.getElem?_eq_some_iff.mp found').1
      have state := states index old found'
      rw [if_pos (by omega)] at state
      exact (logged.record found').not_lost_start state
    refine ⟨nofun, Nat.le_of_eq all, fun _ => all, (List.length_map _).trans length, started,
      ?_, ?_, ?_⟩
    · exact fun found => (standing found).1
    · intro index slot found
      exact updates.lost_iff started found False.elim fun gone => absurd gone (standing found).2
    · exact fun found gone => absurd gone (standing found).2

theorem told_session (makes : B.Makes BusRequest.Local)
    (opens : ∀ worker ∈ workers, worker.Makes BusRequest.Local)
    (distinct : (coreName :: workers.map Worker.name).Nodup)
    (moves : List (Move (ω ⊕ WorkerNote))) (tidy : ∀ move ∈ moves, move.Tidy)
    (silent : ∀ move ∈ moves, move.Quiet) :
    let agent := session B.widen config (notingAll workers) moves
    let lost := Panicked B.widen config (notingAll workers) moves
    agent.Tells (setups B config workers).length workers.length lost ∨
      agent.Told (setups B config workers).length workers.length lost := by
  induction moves using List.reverseRecOn with
  | nil => exact .inl (tells_launch B config workers)
  | append_singleton past move ih =>
    rw [List.forall_mem_append, List.forall_mem_singleton] at tidy silent
    have step : (session B.widen config (notingAll workers) past).Step B.widen move
        (session B.widen config (notingAll workers) (past ++ [move])) := by
      rw [session, session, moves_append]
      exact step_move move
    have updates := updates_snoc B.widen config (notingAll workers) past move
    rcases ih tidy.1 silent.1 with tells | told
    · have names := names_notingAll workers ▸ distinct
      rcases closed_session makes.widen (makes_notingAll opens) names tidy.1 with orderly | closed
      · exact tells.step B.quiet_widen orderly.plain silent.2 step updates
      · exact absurd closed.phase tells.going
    · exact .inr (told.step silent.2 step updates)

end Launching

end Agent

end AgentBus
