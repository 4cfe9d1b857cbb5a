import AgentBus.Worker.Registry

/-!
# The states of a worker

The registry's operations are put together from operations on single slots, between which the
threads of all workers run. `Registry.Step` is one of these or one step of a thread, and
`Registry.Run` any number of them; every call of the registry is such a run (`run_call`).

`Slot.Sound` has the fields of a slot in each of its states, and `Slot.Advances` says how a slot may
go on. Both hold in all runs (`Registry.Run.sound`, `Registry.Step.advances`). All that becomes of a
slot when its thread is started or joined is in `Slot.start_cases` and `Slot.join_cases`.
-/

namespace AgentBus

variable {ω σ : Type}

/-! ## Steps -/

/-- What is done to a registry and its network from outside: which workers are registered at which
places, which jobs their threads are given, and what becomes of the network meanwhile. -/
structure Outside (ω σ : Type) where
  registers : Nat → Worker ω σ → Prop
  assigns : BusProgram ω Unit → Prop
  changes : Network ω → Network ω → Prop

/-- One step at a slot: a part of a registry's operation, or a step of the thread. -/
inductive Slot.Step (B : Behaviour ω σ) (core : EndpointId) (outside : Outside ω σ)
    (slot : Slot ω σ) (net : Network ω) : Slot ω σ → Network ω → Prop where
  | prepare : Step B core outside slot net (slot.prepare B core net).2.1
      (slot.prepare B core net).2.2
  | start : Step B core outside slot net slot.start net
  | join : Step B core outside slot net slot.join net
  | deinit : Step B core outside slot net (slot.deinit B net).1 (slot.deinit B net).2
  | work {thread after : Thread ω σ} {net' : Network ω} : slot.thread = some thread →
      thread.step B net = some (after, net') →
      Step B core outside slot net { slot with thread := some after } net'
  | task {thread after : Thread ω σ} {net' : Network ω} : slot.thread = some thread →
      thread.taskStep net = some (after, net') →
      Step B core outside slot net { slot with thread := some after } net'
  | assign {thread : Thread ω σ} {job : Post → BusProgram ω Unit} :
      (∀ post, outside.assigns (job post)) → slot.thread = some thread →
      Step B core outside slot net { slot with thread := some (thread.addJob job) } net
  /-- Whatever the thread is doing, it can panic. -/
  | crash {thread : Thread ω σ} : slot.thread = some thread → thread.hasEnded = false →
      Step B core outside slot net { slot with thread := some (thread.moveTo .panicked) }
        (thread.context.close net)

namespace Registry

inductive Step (B : Behaviour ω σ) (core : EndpointId) (outside : Outside ω σ)
    (registry : Registry ω σ) (net : Network ω) : Registry ω σ → Network ω → Prop where
  | register {worker : Worker ω σ} : outside.registers registry.slots.length worker →
      Step B core outside registry net (registry.register worker) net
  | slot {number : Nat} {slot slot' : Slot ω σ} {net' : Network ω} :
      registry.slots[number]? = some slot → slot.Step B core outside net slot' net' →
      Step B core outside registry net ⟨registry.slots.set number slot'⟩ net'
  | pass {net' : Network ω} :
      outside.changes net net' → Step B core outside registry net registry net'

inductive Run (B : Behaviour ω σ) (core : EndpointId) (outside : Outside ω σ)
    (registry : Registry ω σ) (net : Network ω) : Registry ω σ → Network ω → Prop where
  | nil : Run B core outside registry net registry net
  | snoc {between after : Registry ω σ} {net' net'' : Network ω} :
      Run B core outside registry net between net' → Step B core outside between net' after net'' →
      Run B core outside registry net after net''

end Registry

/-! ## The fields of a slot -/

/-- The fields of a slot in each of its states. -/
inductive Slot.Sound : Slot ω σ → Prop where
  | registered {name : String} {worker : Worker ω σ} :
      Sound { name, state := .registered, worker := some worker }
  | prepared {name : String} {worker : Worker ω σ} {context : WorkerContext σ}
      {endpoint : EndpointId} :
      Sound { name, state := .prepared, worker := some worker, context := some context,
              endpoint := some endpoint }
  | running {name : String} {endpoint : EndpointId} {thread : Thread ω σ} :
      Sound { name, state := .running, worker := none, endpoint := some endpoint,
              thread := some thread }
  | stopped {name : String} {worker : Worker ω σ} {context : WorkerContext σ}
      {endpoint : EndpointId} {code : Int32} :
      Sound { name, state := .stopped, worker := some worker, context := some context,
              endpoint := some endpoint, exitValue := some code }
  /-- A worker that panicked took its context with it. -/
  | lost {name : String} {endpoint : EndpointId} :
      Sound { name, state := .stopped, worker := none, endpoint := some endpoint }
  | deinitialized {name : String} {worker : Option (Worker ω σ)} {exitValue : Option Int32} :
      Sound { name, state := .deinitialized, worker, exitValue }

inductive WorkerState.Next : WorkerState → WorkerState → Prop where
  | prepare : Next .registered .prepared
  | start : Next .prepared .running
  | stop : Next .running .stopped
  | deinit : Next .stopped .deinitialized
  | release : Next .prepared .deinitialized

/-- What a slot becomes: it stays in its state or goes on to the next, with the fields as they
should be. When its thread is joined, the worker comes back unless it panicked. -/
structure Slot.Advances (slot slot' : Slot ω σ) : Prop where
  sound : slot'.Sound
  moves : slot'.state = slot.state ∨ slot.state.Next slot'.state
  joined : slot.state = .running → slot'.state = .stopped →
    ∃ thread, slot.thread = some thread ∧ thread.hasEnded = true ∧
      (slot'.worker = none ↔ thread.phase = .panicked)

namespace Slot

variable {B : Behaviour ω σ} {core : EndpointId} {outside : Outside ω σ}
variable {slot slot' : Slot ω σ} {net net' : Network ω}

/-- A prepared worker goes into a thread with its context, and any other slot stays as it is. -/
theorem start_cases (slot : Slot ω σ) :
    slot.start = slot ∨
      ∃ worker context, slot.state = .prepared ∧ slot.worker = some worker ∧
        slot.context = some context ∧
        slot.start =
          { slot with
            state := .running, worker := none, context := none
            thread := some (.spawn worker context) } := by
  unfold start
  split
  · next worker context prepared has ready =>
    exact .inr ⟨worker, context, prepared, has, ready, rfl⟩
  · exact .inl rfl

/-- A thread that has returned gives worker and context back, one that has panicked takes them with
it, and without one that has ended the slot stays as it is. -/
theorem join_cases (slot : Slot ω σ) :
    (slot.join = slot ∧ (slot.thread = none ∨ slot.isBusy = true)) ∨
      (∃ thread code, slot.thread = some thread ∧ thread.phase = .returned code ∧
        slot.join =
          { slot with
            state := .stopped, worker := some thread.worker, context := some thread.context
            thread := none, exitValue := some code }) ∨
      ∃ thread, slot.thread = some thread ∧ thread.phase = .panicked ∧
        slot.join = { slot with state := .stopped, thread := none } := by
  unfold join
  split
  · next none => exact .inl ⟨rfl, .inl none⟩
  · next thread has =>
    split
    · next code returned => exact .inr (.inl ⟨thread, code, has, returned, rfl⟩)
    · next panicked => exact .inr (.inr ⟨thread, has, panicked, rfl⟩)
    · next running going =>
      refine .inl ⟨rfl, .inr ?_⟩
      rw [isBusy, has, Option.any_some, Thread.hasEnded]
      split
      · next code returned => exact absurd returned (running code)
      · next panicked => exact absurd panicked going
      · rfl

theorem endpoint_start (slot : Slot ω σ) : slot.start.endpoint = slot.endpoint := by
  obtain same | ⟨_, _, _, _, _, same⟩ := slot.start_cases
  all_goals rw [same]

theorem endpoint_join (slot : Slot ω σ) : slot.join.endpoint = slot.endpoint := by
  obtain ⟨same, _⟩ | ⟨_, _, _, _, same⟩ | ⟨_, _, _, same⟩ := slot.join_cases
  all_goals rw [same]

theorem name_start (slot : Slot ω σ) : slot.start.name = slot.name := by
  obtain same | ⟨_, _, _, _, _, same⟩ := slot.start_cases
  all_goals rw [same]

theorem name_join (slot : Slot ω σ) : slot.join.name = slot.name := by
  obtain ⟨same, _⟩ | ⟨_, _, _, _, same⟩ | ⟨_, _, _, same⟩ := slot.join_cases
  all_goals rw [same]

theorem Advances.of_same (sound : slot.Sound) : slot.Advances slot where
  sound := sound
  moves := .inl rfl
  joined running stopped := nomatch running.symm.trans stopped

theorem Advances.of_next (sound : slot'.Sound) (next : slot.state.Next slot'.state)
    (going : slot.state ≠ .running) : slot.Advances slot' where
  sound := sound
  moves := .inr next
  joined running := absurd running going

/-- Only a running worker has a thread, and whatever that does, the worker goes on running. -/
theorem Advances.of_thread {thread : Thread ω σ} (sound : slot.Sound)
    (found : slot.thread = some thread) (after : Thread ω σ) :
    slot.Advances { slot with thread := some after } := by
  cases sound with
  | running => exact ⟨.running, .inl rfl, nofun⟩
  | registered => contradiction
  | prepared => contradiction
  | stopped => contradiction
  | lost => contradiction
  | deinitialized => contradiction

theorem advances_prepare (sound : slot.Sound) : slot.Advances (slot.prepare B core net).2.1 := by
  cases sound with
  | registered => exact .of_next .prepared .prepare nofun
  | prepared => exact .of_same .prepared
  | running => exact .of_same .running
  | stopped => exact .of_same .stopped
  | lost => exact .of_same .lost
  | deinitialized => exact .of_same .deinitialized

theorem advances_start (sound : slot.Sound) : slot.Advances slot.start := by
  cases sound with
  | registered => exact .of_same .registered
  | prepared => exact .of_next .running .start nofun
  | running => exact .of_same .running
  | stopped => exact .of_same .stopped
  | lost => exact .of_same .lost
  | deinitialized => exact .of_same .deinitialized

theorem join_of_none (none : slot.thread = none) : slot.join = slot := by
  rw [join, none]

theorem advances_join (sound : slot.Sound) : slot.Advances slot.join := by
  cases sound with
  | registered => exact .of_same .registered
  | prepared => exact .of_same .prepared
  | @running name endpoint thread =>
    obtain ⟨worker, context, phase⟩ := thread
    cases phase with
    | opening main => exact .of_same .running
    | looping loop task code => exact .of_same .running
    | leaving code => exact .of_same .running
    | returned code =>
      refine ⟨.stopped, .inr .stop, fun _ _ => ⟨_, rfl, rfl, ?_⟩⟩
      simp [join]
    | panicked =>
      refine ⟨.lost, .inr .stop, fun _ _ => ⟨_, rfl, rfl, ?_⟩⟩
      simp [join]
  | stopped => exact .of_same .stopped
  | lost => exact .of_same .lost
  | deinitialized => exact .of_same .deinitialized

theorem advances_deinit (sound : slot.Sound) : slot.Advances (slot.deinit B net).1 := by
  cases sound with
  | registered => exact .of_same .registered
  | prepared => exact .of_next .deinitialized .release nofun
  | running => exact .of_same .running
  | stopped => exact .of_next .deinitialized .deinit nofun
  | lost => exact .of_next .deinitialized .deinit nofun
  | deinitialized => exact .of_same .deinitialized

theorem Step.advances (step : slot.Step B core outside net slot' net') (sound : slot.Sound) :
    slot.Advances slot' := by
  cases step with
  | prepare => exact advances_prepare sound
  | start => exact advances_start sound
  | join => exact advances_join sound
  | deinit => exact advances_deinit sound
  | work found => exact .of_thread sound found _
  | task found => exact .of_thread sound found _
  | assign _ found => exact .of_thread sound found _
  | crash found => exact .of_thread sound found _

end Slot

/-! ## All slots -/

namespace Registry

section Fields

variable {B : Behaviour ω σ} {core : EndpointId} {outside : Outside ω σ}
variable {registry registry' : Registry ω σ} {net net' : Network ω}

def Sound (registry : Registry ω σ) : Prop :=
  ∀ {number : Nat} {slot : Slot ω σ}, registry.slots[number]? = some slot → slot.Sound

theorem slots_register_eq_some {worker : Worker ω σ} {number : Nat} {slot : Slot ω σ}
    (found : (registry.register worker).slots[number]? = some slot) :
    registry.slots[number]? = some slot ∨
      number = registry.slots.length ∧ slot = .ofWorker worker := by
  rw [Registry.register, List.getElem?_append] at found
  split at found
  · exact .inl found
  · obtain ⟨bound, rfl⟩ := List.getElem?_eq_some_iff.mp found
    rw [List.length_singleton] at bound
    exact .inr ⟨by omega, by simp⟩

theorem slots_register {number : Nat} {slot : Slot ω σ} (worker : Worker ω σ)
    (found : registry.slots[number]? = some slot) :
    (registry.register worker).slots[number]? = some slot := by
  rw [Registry.register, List.getElem?_append_left (List.getElem?_eq_some_iff.mp found).1]
  exact found

theorem slots_set_self {number : Nat} {slot : Slot ω σ}
    (found : registry.slots[number]? = some slot) (slot' : Slot ω σ) :
    (registry.slots.set number slot')[number]? = some slot' := by
  simp [(List.getElem?_eq_some_iff.mp found).1]

theorem slots_set_eq_some {number other : Nat} {slot slot' : Slot ω σ}
    (found : (registry.slots.set number slot)[other]? = some slot') :
    other = number ∧ slot' = slot ∨ other ≠ number ∧ registry.slots[other]? = some slot' := by
  by_cases same : other = number
  · subst same
    have bound := (List.getElem?_eq_some_iff.mp found).1
    rw [List.length_set] at bound
    rw [List.getElem?_set_self bound] at found
    exact .inl ⟨rfl, (Option.some.inj found).symm⟩
  · rw [List.getElem?_set_ne (Ne.symm same)] at found
    exact .inr ⟨same, found⟩

theorem Step.advances (step : Step B core outside registry net registry' net')
    (sound : registry.Sound) {number : Nat} {slot : Slot ω σ}
    (found : registry.slots[number]? = some slot) :
    ∃ slot', registry'.slots[number]? = some slot' ∧ slot.Advances slot' := by
  cases step with
  | register => exact ⟨slot, slots_register _ found, .of_same (sound found)⟩
  | @slot other before after _ found' step =>
    by_cases same : other = number
    · subst same
      obtain rfl := Option.some.inj (found.symm.trans found')
      exact ⟨after, slots_set_self found after, step.advances (sound found)⟩
    · exact ⟨slot, by simp [same, found], .of_same (sound found)⟩
  | pass => exact ⟨slot, found, .of_same (sound found)⟩

theorem Step.sound (step : Step B core outside registry net registry' net')
    (sound : registry.Sound) : registry'.Sound := by
  intro number slot found
  cases step with
  | register =>
    obtain old | ⟨_, rfl⟩ := slots_register_eq_some found
    · exact sound old
    · exact .registered
  | @slot other before after _ found' step =>
    obtain ⟨rfl, rfl⟩ | ⟨_, old⟩ := slots_set_eq_some found
    · exact (step.advances (sound found')).sound
    · exact sound old
  | pass => exact sound found

theorem Run.sound {start : Network ω} (run : Run B core outside {} start registry net) :
    registry.Sound := by
  induction run with
  | nil => exact nofun
  | snoc _ step ih => exact step.sound ih

end Fields

end Registry

/-! ## Calls of the registry -/

inductive RegistryCall (ω σ : Type) where
  | register (worker : Worker ω σ)
  | prepare
  | start
  | stop
  | deinit

def RegistryCall.perform (B : Behaviour ω σ) (core : EndpointId) (registry : Registry ω σ)
    (net : Network ω) : RegistryCall ω σ → Registry ω σ × Network ω
  | .register worker => (registry.register worker, net)
  | .prepare => (registry.prepare B core net).2
  | .start => (registry.start, net)
  | .stop => (registry.stop, net)
  | .deinit => registry.deinit B net

namespace Registry

section Walks

variable {B : Behaviour ω σ} {core : EndpointId} {outside : Outside ω σ}

theorem Run.trans {first second third : Registry ω σ} {net net' net'' : Network ω}
    (run : Run B core outside first net second net')
    (more : Run B core outside second net' third net'') :
    Run B core outside first net third net'' := by
  induction more with
  | nil => exact run
  | snoc _ step ih => exact ih.snoc step

/-- One step at the first slot that a walk has not come to. -/
theorem Run.walk (done rest : List (Slot ω σ)) {slot slot' : Slot ω σ} {net net' : Network ω}
    (step : slot.Step B core outside net slot' net') :
    Run B core outside ⟨done ++ slot :: rest⟩ net ⟨done ++ [slot'] ++ rest⟩ net' := by
  have found : (Registry.mk (done ++ slot :: rest)).slots[done.length]? = some slot := by simp
  have moved := Run.nil.snoc (Step.slot found step)
  have split : (done ++ slot :: rest).set done.length slot' = done ++ [slot'] ++ rest := by simp
  rw [split] at moved
  exact moved

theorem run_map {f : Slot ω σ → Slot ω σ} {net : Network ω}
    (steps : ∀ slot : Slot ω σ, slot.Step B core outside net (f slot) net)
    (done rest : List (Slot ω σ)) :
    Run B core outside ⟨done ++ rest⟩ net ⟨done ++ rest.map f⟩ net := by
  induction rest generalizing done with
  | nil => exact .nil
  | cons slot rest ih =>
    have later := ih (done ++ [f slot])
    rw [List.append_assoc done [f slot] (rest.map f)] at later
    exact (Run.walk done rest (steps slot)).trans later

theorem run_prepareSlots (done rest : List (Slot ω σ)) (net : Network ω) :
    Run B core outside ⟨done ++ rest⟩ net ⟨done ++ (prepareSlots B core rest net).2.1⟩
      (prepareSlots B core rest net).2.2 := by
  induction rest generalizing done net with
  | nil => exact .nil
  | cons slot rest ih =>
    have step : slot.Step B core outside net _ _ := .prepare
    have walked := Run.walk done rest step
    unfold prepareSlots
    cases failed : (slot.prepare B core net).1 with
    | some error => simpa [failed] using walked
    | none =>
      have later := ih (done ++ [(slot.prepare B core net).2.1]) (slot.prepare B core net).2.2
      simpa [failed] using walked.trans later

theorem run_deinitSlots (done rest : List (Slot ω σ)) (net : Network ω) :
    Run B core outside ⟨done ++ rest⟩ net ⟨done ++ (deinitSlots B rest net).1⟩
      (deinitSlots B rest net).2 := by
  induction rest generalizing done net with
  | nil => exact .nil
  | cons slot rest ih =>
    have step : slot.Step B core outside net _ _ := .deinit
    have walked := Run.walk done rest step
    have later := ih (done ++ [(slot.deinit B net).1]) (slot.deinit B net).2
    simpa [deinitSlots] using walked.trans later

/-- Every call of the registry is a run. -/
theorem run_call (registry : Registry ω σ) (net : Network ω) (call : RegistryCall ω σ)
    (allowed : ∀ worker, call = .register worker →
      outside.registers registry.slots.length worker) :
    Run B core outside registry net (call.perform B core registry net).1
      (call.perform B core registry net).2 := by
  cases call with
  | register worker => exact Run.nil.snoc (.register (allowed worker rfl))
  | prepare => exact run_prepareSlots [] registry.slots net
  | start => exact run_map (fun _ => .start) [] registry.slots
  | stop => exact run_map (fun _ => .join) [] registry.slots
  | deinit => exact run_deinitSlots [] registry.slots net

end Walks

end Registry

end AgentBus
