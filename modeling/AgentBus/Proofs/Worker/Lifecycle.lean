import AgentBus.Proofs.Worker.Notes
import AgentBus.Proofs.Worker.States

/-!
# The life of a worker

What is called of a worker is what it has noted, if it has a notebook. `Slot.Record` says what that
is, state by state, and `Slot.Step.noted` that every step keeps it so. `Slot.Lost` is a worker that
panicked, of which nothing is called any more. `worker_lifecycle` puts this together with the states
of the slots.
-/

namespace AgentBus

variable {ω σ : Type}

/-! ## What a worker notes -/

/-- Registered are workers with notebooks, each known by its place. Nothing else takes notes. -/
def Outside.noting : Outside (ω ⊕ WorkerNote) σ where
  registers number worker := ∃ plain : Worker ω σ, worker = plain.noting number
  assigns := BusProgram.Quiet
  changes net net' := net'.notes = net.notes

def Network.callsOf (net : Network (ω ⊕ WorkerNote)) (number : Nat) : List WorkerCall :=
  (net.notes.filter fun note => note.worker = number).map WorkerNote.call

theorem Network.callsOf_append {net net' : Network (ω ⊕ WorkerNote)} {number : Nat}
    {calls : List WorkerCall} (grown : net'.notes = net.notes ++ calls.map (WorkerNote.mk number))
    (other : Nat) :
    net'.callsOf other = net.callsOf other ++ if other = number then calls else [] := by
  rw [callsOf, callsOf, grown, List.filter_append, List.map_append]
  congr 1
  by_cases same : other = number
  · subst same
    rw [if_pos rfl, List.filter_map, List.map_map]
    simp [Function.comp_def]
  · rw [if_neg same, List.filter_map]
    simp [Function.comp_def, Ne.symm same]

/-- What a worker has noted as long as it has a thread. -/
inductive Thread.Record (number : Nat) : Thread (ω ⊕ WorkerNote) σ → List WorkerCall → Prop where
  | opening {plain : Worker ω σ} {context : WorkerContext σ} :
      Record number (.spawn (plain.noting number) context) [.init]
  | called {plain : Worker ω σ} {thread : Thread (ω ⊕ WorkerNote) σ} :
      thread.worker = plain.noting number → thread.phase.Quiet →
      Record number thread [.init, .main]
  /-- It panicked before it came to `main`. -/
  | crashed {thread : Thread (ω ⊕ WorkerNote) σ} : thread.phase = .panicked →
      Record number thread [.init]

/-- What a worker has noted in each state of its slot. -/
inductive Slot.Record (number : Nat) : Slot (ω ⊕ WorkerNote) σ → List WorkerCall → Prop where
  | registered {name : String} {plain : Worker ω σ} :
      Record number { name, state := .registered, worker := some (plain.noting number) } []
  | prepared {name : String} {plain : Worker ω σ} {context : WorkerContext σ}
      {endpoint : EndpointId} :
      Record number
        { name, state := .prepared, worker := some (plain.noting number), context := some context,
          endpoint := some endpoint }
        [.init]
  | running {name : String} {endpoint : EndpointId} {thread : Thread (ω ⊕ WorkerNote) σ}
      {calls : List WorkerCall} : thread.Record number calls →
      Record number
        { name, state := .running, worker := none, endpoint := some endpoint,
          thread := some thread }
        calls
  | stopped {name : String} {plain : Worker ω σ} {context : WorkerContext σ}
      {endpoint : EndpointId} {code : Int32} :
      Record number
        { name, state := .stopped, worker := some (plain.noting number), context := some context,
          endpoint := some endpoint, exitValue := some code }
        [.init, .main]
  | lost {name : String} {endpoint : EndpointId} {calls : List WorkerCall} :
      calls = [.init] ∨ calls = [.init, .main] →
      Record number { name, state := .stopped, worker := none, endpoint := some endpoint } calls
  | released {name : String} {worker : Option (Worker (ω ⊕ WorkerNote) σ)} :
      Record number { name, state := .deinitialized, worker } [.init, .deinit]
  | deinitialized {name : String} {worker : Option (Worker (ω ⊕ WorkerNote) σ)} {code : Int32} :
      Record number { name, state := .deinitialized, worker, exitValue := some code }
        [.init, .main, .deinit]
  | withdrawn {name : String} {worker : Option (Worker (ω ⊕ WorkerNote) σ)}
      {calls : List WorkerCall} : calls = [.init] ∨ calls = [.init, .main] →
      Record number { name, state := .deinitialized, worker } calls

/-- A slot or its thread goes on, and the worker notes what is called of it. -/
def Noted (number : Nat) (net net' : Network (ω ⊕ WorkerNote)) (calls : List WorkerCall)
    (holds : List WorkerCall → Prop) : Prop :=
  ∃ new, net'.notes = net.notes ++ new.map (WorkerNote.mk number) ∧ holds (calls ++ new)

theorem Noted.nothing {number : Nat} {net net' : Network (ω ⊕ WorkerNote)}
    {calls : List WorkerCall} {holds : List WorkerCall → Prop} (same : net'.notes = net.notes)
    (held : holds calls) : Noted number net net' calls holds := by
  refine ⟨[], ?_, ?_⟩
  · rw [same, List.map_nil, List.append_nil]
  · rw [List.append_nil]
    exact held

theorem Noted.one {number : Nat} {net net' : Network (ω ⊕ WorkerNote)} {call : WorkerCall}
    {calls : List WorkerCall} {holds : List WorkerCall → Prop}
    (grown : net'.notes = net.notes ++ [⟨number, call⟩]) (held : holds (calls ++ [call])) :
    Noted number net net' calls holds :=
  ⟨[call], grown, held⟩

theorem Noted.imp {number : Nat} {net net' : Network (ω ⊕ WorkerNote)}
    {calls : List WorkerCall} {holds holds' : List WorkerCall → Prop}
    (noted : Noted number net net' calls holds) (weaker : ∀ calls, holds calls → holds' calls) :
    Noted number net net' calls holds' := by
  obtain ⟨new, grown, held⟩ := noted
  exact ⟨new, grown, weaker _ held⟩

namespace Thread

variable {B : Behaviour (ω ⊕ WorkerNote) σ} {number : Nat} {calls : List WorkerCall}
variable {thread after : Thread (ω ⊕ WorkerNote) σ} {net net' : Network (ω ⊕ WorkerNote)}

theorem Record.step (quiet : B.Quiet) (record : thread.Record number calls)
    (stepped : thread.step B net = some (after, net')) :
    Noted number net net' calls (after.Record number) := by
  cases record with
  | @opening plain context =>
    -- The first request of the opening is the note
    obtain ⟨rfl, rfl⟩ := Prod.mk.inj (Option.some.inj stepped)
    apply Noted.one (Network.notes_perform_emit_note net _)
    exact .called rfl (plain.quiet_widenedMain context.post)
  | called worker quietPhase =>
    obtain ⟨quietAfter, same⟩ := quiet_step quiet quietPhase stepped
    exact .nothing same (.called ((worker_step stepped).trans worker) quietAfter)
  | crashed panicked =>
    rw [Thread.step, panicked] at stepped
    contradiction

theorem Record.taskStep (record : thread.Record number calls)
    (stepped : thread.taskStep net = some (after, net')) :
    Noted number net net' calls (after.Record number) := by
  cases record with
  | opening => contradiction
  | called worker quietPhase =>
    obtain ⟨quietAfter, same⟩ := quiet_taskStep quietPhase stepped
    exact .nothing same (.called ((worker_taskStep stepped).trans worker) quietAfter)
  | crashed panicked =>
    rw [Thread.taskStep, panicked] at stepped
    contradiction

theorem Record.addJob {job : Post → BusProgram (ω ⊕ WorkerNote) Unit}
    (quietJob : ∀ post, (job post).Quiet) (record : thread.Record number calls) :
    (thread.addJob job).Record number calls := by
  cases record with
  | opening => exact .opening
  | called worker quietPhase =>
    exact .called ((worker_addJob job thread).trans worker) (quiet_addJob quietJob quietPhase)
  | crashed panicked =>
    apply Record.crashed
    rw [Thread.addJob, panicked]
    exact panicked

theorem Record.crash (record : thread.Record number calls) :
    (thread.moveTo .panicked).Record number calls := by
  cases record with
  | opening => exact .crashed rfl
  | called worker => exact .called worker trivial
  | crashed => exact .crashed rfl

end Thread

namespace Slot

variable {B : Behaviour (ω ⊕ WorkerNote) σ} {core : EndpointId}
variable {number : Nat} {calls : List WorkerCall}
variable {slot slot' : Slot (ω ⊕ WorkerNote) σ} {net net' : Network (ω ⊕ WorkerNote)}

theorem Record.prepare (quiet : B.Quiet) (record : slot.Record number calls) :
    Noted number net (slot.prepare B core net).2.2 calls
      ((slot.prepare B core net).2.1.Record number) := by
  cases record with
  | registered => exact .one (WorkerContext.notes_bringUp quiet number _ _ _) .prepared
  | prepared => exact .nothing rfl .prepared
  | running record => exact .nothing rfl (.running record)
  | stopped => exact .nothing rfl .stopped
  | lost calls => exact .nothing rfl (.lost calls)
  | released => exact .nothing rfl .released
  | deinitialized => exact .nothing rfl .deinitialized
  | withdrawn calls => exact .nothing rfl (.withdrawn calls)

theorem Record.start (record : slot.Record number calls) : slot.start.Record number calls := by
  cases record with
  | registered => exact .registered
  | prepared => exact .running .opening
  | running record => exact .running record
  | stopped => exact .stopped
  | lost calls => exact .lost calls
  | released => exact .released
  | deinitialized => exact .deinitialized
  | withdrawn calls => exact .withdrawn calls

theorem Record.join (record : slot.Record number calls) : slot.join.Record number calls := by
  cases record with
  | registered => exact .registered
  | prepared => exact .prepared
  | @running name endpoint thread _ record =>
    obtain ⟨worker, context, phase⟩ := thread
    cases phase with
    | opening main => exact .running record
    | looping loop task code => exact .running record
    | leaving code => exact .running record
    | returned code =>
      -- A thread that returned was called
      cases record with
      | called noted =>
        obtain rfl : worker = _ := noted
        exact .stopped
      | crashed panicked => contradiction
    | panicked =>
      cases record with
      | called => exact .lost (.inr rfl)
      | crashed => exact .lost (.inl rfl)
  | stopped => exact .stopped
  | lost calls => exact .lost calls
  | released => exact .released
  | deinitialized => exact .deinitialized
  | withdrawn calls => exact .withdrawn calls

theorem Record.deinit (quiet : B.Quiet) (record : slot.Record number calls) :
    Noted number net (slot.deinit B net).2 calls ((slot.deinit B net).1.Record number) := by
  cases record with
  | registered => exact .nothing rfl .registered
  | prepared => exact .one (WorkerContext.notes_takeDown quiet number _ _ _) .released
  | running record => exact .nothing rfl (.running record)
  | stopped => exact .one (WorkerContext.notes_takeDown quiet number _ _ _) .deinitialized
  | lost calls => exact .nothing rfl (.withdrawn calls)
  | released => exact .nothing rfl .released
  | deinitialized => exact .nothing rfl .deinitialized
  | withdrawn calls => exact .nothing rfl (.withdrawn calls)

/-- `deinit` is called if the context is still there. -/
theorem Record.notes_deinit (quiet : B.Quiet) (record : slot.Record number calls)
    (net : Network (ω ⊕ WorkerNote)) :
    (slot.deinit B net).2.notes =
      net.notes ++ (if slot.context.isSome then [.deinit] else []).map (WorkerNote.mk number) := by
  have nothing : net.notes = net.notes ++ [] := (List.append_nil _).symm
  cases record with
  | registered => exact nothing
  | prepared => exact WorkerContext.notes_takeDown quiet number _ _ _
  | running => exact nothing
  | stopped => exact WorkerContext.notes_takeDown quiet number _ _ _
  | lost => exact nothing
  | released => exact nothing
  | deinitialized => exact nothing
  | withdrawn => exact nothing

/-- Only a running worker has a thread. -/
theorem Record.of_thread {thread : Thread (ω ⊕ WorkerNote) σ}
    (record : slot.Record number calls) (found : slot.thread = some thread) :
    thread.Record number calls ∧ ∃ name endpoint,
      slot = { name, state := .running, worker := none, endpoint := some endpoint,
               thread := some thread } := by
  cases record with
  | running record =>
    obtain rfl := Option.some.inj found
    exact ⟨record, _, _, rfl⟩
  | registered => contradiction
  | prepared => contradiction
  | stopped => contradiction
  | lost => contradiction
  | released => contradiction
  | deinitialized => contradiction
  | withdrawn => contradiction

theorem Step.noted (quiet : B.Quiet) (step : slot.Step B core .noting net slot' net')
    (record : slot.Record number calls) : Noted number net net' calls (slot'.Record number) := by
  cases step with
  | prepare => exact record.prepare quiet
  | start => exact .nothing rfl record.start
  | join => exact .nothing rfl record.join
  | deinit => exact record.deinit quiet
  | work found stepped =>
    obtain ⟨running, name, endpoint, rfl⟩ := record.of_thread found
    exact (running.step quiet stepped).imp fun _ => .running
  | task found stepped =>
    obtain ⟨running, name, endpoint, rfl⟩ := record.of_thread found
    exact (running.taskStep stepped).imp fun _ => .running
  | assign quietJob found =>
    obtain ⟨running, name, endpoint, rfl⟩ := record.of_thread found
    exact .nothing rfl (.running (running.addJob quietJob))
  | crash found =>
    obtain ⟨running, name, endpoint, rfl⟩ := record.of_thread found
    exact .nothing rfl (.running running.crash)

/-! ### After a panic -/

/-- A worker that panicked on its thread. -/
inductive Lost : Slot (ω ⊕ WorkerNote) σ → Prop where
  | panicked {name : String} {endpoint : EndpointId} {thread : Thread (ω ⊕ WorkerNote) σ} :
      thread.phase = .panicked →
      Lost { name, state := .running, worker := none, endpoint := some endpoint,
             thread := some thread }
  | stopped {name : String} {endpoint : EndpointId} :
      Lost { name, state := .stopped, worker := none, endpoint := some endpoint }
  | deinitialized {name : String} : Lost { name, state := .deinitialized, worker := none }

theorem Lost.panicked_of_thread {thread : Thread (ω ⊕ WorkerNote) σ} (lost : slot.Lost)
    (found : slot.thread = some thread) : thread.phase = .panicked := by
  cases lost with
  | panicked panicked =>
    obtain rfl := Option.some.inj found
    exact panicked
  | stopped => contradiction
  | deinitialized => contradiction

/-- A lost worker stays lost, and nothing of it is called. -/
theorem Step.lost {outside : Outside (ω ⊕ WorkerNote) σ}
    (step : slot.Step B core outside net slot' net') (lost : slot.Lost) :
    slot'.Lost ∧ net'.notes = net.notes := by
  cases step with
  | prepare =>
    cases lost with
    | panicked panicked => exact ⟨.panicked panicked, rfl⟩
    | stopped => exact ⟨.stopped, rfl⟩
    | deinitialized => exact ⟨.deinitialized, rfl⟩
  | start =>
    cases lost with
    | panicked panicked => exact ⟨.panicked panicked, rfl⟩
    | stopped => exact ⟨.stopped, rfl⟩
    | deinitialized => exact ⟨.deinitialized, rfl⟩
  | join =>
    cases lost with
    | @panicked name endpoint thread panicked =>
      -- The thread took the worker with it, so there is nothing to take over
      obtain ⟨worker, context, phase⟩ := thread
      obtain rfl : phase = .panicked := panicked
      exact ⟨.stopped, rfl⟩
    | stopped => exact ⟨.stopped, rfl⟩
    | deinitialized => exact ⟨.deinitialized, rfl⟩
  | deinit =>
    cases lost with
    | panicked panicked => exact ⟨.panicked panicked, rfl⟩
    | stopped => exact ⟨.deinitialized, rfl⟩
    | deinitialized => exact ⟨.deinitialized, rfl⟩
  | work found stepped =>
    rw [Thread.step, lost.panicked_of_thread found] at stepped
    contradiction
  | task found stepped =>
    rw [Thread.taskStep, lost.panicked_of_thread found] at stepped
    contradiction
  | @assign thread job _ found =>
    have panicked := lost.panicked_of_thread found
    have same : thread.addJob job = thread := by
      rw [Thread.addJob, panicked]
    rw [same, ← found]
    exact ⟨lost, rfl⟩
  | crash found going =>
    rw [Thread.hasEnded, lost.panicked_of_thread found] at going
    contradiction

end Slot

/-! ## All slots -/

namespace Registry

section Calls

variable {B : Behaviour (ω ⊕ WorkerNote) σ} {core : EndpointId}
variable {registry registry' : Registry (ω ⊕ WorkerNote) σ} {net net' : Network (ω ⊕ WorkerNote)}

/-- The workers of a registry have noted what their slots tell, and there are no other notes. -/
structure Logged (registry : Registry (ω ⊕ WorkerNote) σ) (net : Network (ω ⊕ WorkerNote)) :
    Prop where
  record : ∀ {number : Nat} {slot : Slot (ω ⊕ WorkerNote) σ},
    registry.slots[number]? = some slot → slot.Record number (net.callsOf number)
  nobody : ∀ {number : Nat}, registry.slots.length ≤ number → net.callsOf number = []

theorem Logged.of_same_notes (logged : registry.Logged net) (same : net'.notes = net.notes) :
    registry.Logged net' := by
  have calls : ∀ number, net'.callsOf number = net.callsOf number := by
    intro number
    rw [Network.callsOf, same, Network.callsOf]
  constructor
  · intro number slot found
    rw [calls]
    exact logged.record found
  · intro number beyond
    rw [calls]
    exact logged.nobody beyond

theorem Logged.register (logged : registry.Logged net) (plain : Worker ω σ) :
    (registry.register (plain.noting registry.slots.length)).Logged net := by
  constructor
  · intro number slot found
    obtain old | ⟨rfl, rfl⟩ := slots_register_eq_some found
    · exact logged.record old
    · rw [logged.nobody (Nat.le_refl _)]
      exact .registered
  · intro number beyond
    rw [Registry.register, List.length_append, List.length_singleton] at beyond
    exact logged.nobody (by omega)

/-- A slot's worker notes its own calls only. -/
theorem Logged.set (logged : registry.Logged net) {number : Nat}
    {slot slot' : Slot (ω ⊕ WorkerNote) σ} (found : registry.slots[number]? = some slot)
    (noted : Noted number net net' (net.callsOf number) (slot'.Record number)) :
    Logged ⟨registry.slots.set number slot'⟩ net' := by
  obtain ⟨new, grown, record⟩ := noted
  have calls := Network.callsOf_append grown
  constructor
  · intro other after found'
    rw [calls]
    obtain ⟨rfl, rfl⟩ | ⟨different, old⟩ := slots_set_eq_some found'
    · rw [if_pos rfl]
      exact record
    · -- Notes of another worker do not count here
      rw [if_neg different, List.append_nil]
      exact logged.record old
  · intro other beyond
    rw [List.length_set] at beyond
    have bound := (List.getElem?_eq_some_iff.mp found).1
    rw [calls, if_neg (by omega), List.append_nil]
    exact logged.nobody beyond

theorem Logged.step (quiet : B.Quiet) (logged : registry.Logged net)
    (step : Step B core .noting registry net registry' net') : registry'.Logged net' := by
  cases step with
  | register noted =>
    obtain ⟨plain, rfl⟩ := noted
    exact logged.register plain
  | slot found step => exact logged.set found (step.noted quiet (logged.record found))
  | pass same => exact logged.of_same_notes same

theorem Run.logged {start : Network (ω ⊕ WorkerNote)} (quiet : B.Quiet) (silent : start.notes = [])
    (run : Run B core .noting {} start registry net) : registry.Logged net := by
  induction run with
  | nil =>
    constructor
    · exact nofun
    · intro number _
      rw [Network.callsOf, silent]
      rfl
  | snoc _ step ih => exact ih.step quiet step

theorem Logged.run (quiet : B.Quiet) (logged : registry.Logged net)
    (run : Run B core .noting registry net registry' net') : registry'.Logged net' := by
  induction run with
  | nil => exact logged
  | snoc _ step ih => exact ih.step quiet step

/-- `deinit` is called of the workers whose contexts are still there. -/
theorem callsOf_deinitSlots (quiet : B.Quiet) {slots : List (Slot (ω ⊕ WorkerNote) σ)} {first : Nat}
    (records : ∀ (index : Nat) (slot : Slot (ω ⊕ WorkerNote) σ), slots[index]? = some slot →
      ∃ calls, slot.Record (first + index) calls)
    (net : Network (ω ⊕ WorkerNote)) (number : Nat) :
    (deinitSlots B slots net).2.callsOf number =
      net.callsOf number ++
        if first ≤ number ∧ (slots[number - first]?).any (·.context.isSome) then [.deinit]
        else [] := by
  induction slots generalizing first net with
  | nil => simp [deinitSlots]
  | cons slot rest ih =>
    obtain ⟨calls, record⟩ := records 0 slot List.getElem?_cons_zero
    have here := Network.callsOf_append (record.notes_deinit quiet net) number
    have others (index : Nat) (slot : Slot (ω ⊕ WorkerNote) σ) (found : rest[index]? = some slot) :
        ∃ calls, slot.Record (first + 1 + index) calls := by
      rw [Nat.add_assoc, Nat.add_comm 1]
      exact records (index + 1) slot found
    have later := ih others (slot.deinit B net).2
    rw [deinitSlots, later, here, List.append_assoc]
    congr 1
    -- The number is before the slots, that of the first one, or behind it
    rcases Nat.lt_trichotomy number first with before | rfl | behind
    · rw [if_neg (by omega), if_neg (by omega), if_neg (by omega)]
      rfl
    · have later : ¬ number + 1 ≤ number := by omega
      simp [later]
    · obtain ⟨offset, rfl⟩ : ∃ offset, number = first + offset + 1 := ⟨number - first - 1, by omega⟩
      have outer : first + offset + 1 - first = offset + 1 := by omega
      have inner : first + offset + 1 - (first + 1) = offset := by omega
      rw [if_neg (by omega), outer, inner, List.getElem?_cons_succ, List.nil_append]
      simp [Nat.add_assoc]

theorem Logged.callsOf_deinit (quiet : B.Quiet) (logged : registry.Logged net)
    (net' : Network (ω ⊕ WorkerNote)) (number : Nat) :
    (deinitSlots B registry.slots net').2.callsOf number =
      net'.callsOf number ++
        if (registry.slots[number]?).any (·.context.isSome) then [.deinit] else [] := by
  have records (index : Nat) (slot : Slot (ω ⊕ WorkerNote) σ)
      (found : registry.slots[index]? = some slot) : ∃ calls, slot.Record (0 + index) calls := by
    rw [Nat.zero_add]
    exact ⟨_, logged.record found⟩
  rw [callsOf_deinitSlots quiet records]
  simp only [Nat.zero_le, true_and, Nat.sub_zero]

/-- What every step at a slot keeps without a note is kept by every run, and nothing is called of
the worker any more. -/
theorem Run.silent (quiet : B.Quiet) (logged : registry.Logged net)
    {stays : Slot (ω ⊕ WorkerNote) σ → Prop}
    (keeps : ∀ {slot slot' : Slot (ω ⊕ WorkerNote) σ} {net net' : Network (ω ⊕ WorkerNote)},
      slot.Step B core .noting net slot' net' → stays slot → stays slot' ∧ net'.notes = net.notes)
    {number : Nat} {slot : Slot (ω ⊕ WorkerNote) σ} (found : registry.slots[number]? = some slot)
    (held : stays slot) (run : Run B core .noting registry net registry' net') :
    registry'.Logged net' ∧ net'.callsOf number = net.callsOf number ∧
      ∃ slot', registry'.slots[number]? = some slot' ∧ stays slot' := by
  induction run with
  | nil => exact ⟨logged, rfl, slot, found, held⟩
  | snoc _ step ih =>
    obtain ⟨logged, same, slot, found, held⟩ := ih
    refine ⟨logged.step quiet step, ?_⟩
    cases step with
    | register => exact ⟨same, slot, slots_register _ found, held⟩
    | @slot other before after _ found' step =>
      by_cases here : other = number
      · subst here
        obtain rfl := Option.some.inj (found.symm.trans found')
        obtain ⟨held', silent⟩ := keeps step held
        rw [← same, Network.callsOf, silent]
        exact ⟨rfl, after, slots_set_self found after, held'⟩
      · obtain ⟨new, grown, _⟩ := step.noted quiet (logged.record found')
        rw [Network.callsOf_append grown, if_neg (Ne.symm here), List.append_nil]
        exact ⟨same, slot, by simp [here, found], held⟩
    | pass silent =>
      rw [← same, Network.callsOf, silent]
      exact ⟨rfl, slot, found, held⟩

end Calls

end Registry

/-! ## The life of a worker -/

namespace Slot

variable {number : Nat} {calls : List WorkerCall} {slot : Slot (ω ⊕ WorkerNote) σ}

theorem Record.calls_mem (record : slot.Record number calls) :
    calls ∈ [[], [.init], [.init, .main], [.init, .deinit], [.init, .main, .deinit]] := by
  cases record with
  | registered => decide
  | prepared => decide
  | running record => cases record <;> decide
  | stopped => decide
  | lost either => obtain rfl | rfl := either <;> decide
  | released => decide
  | deinitialized => decide
  | withdrawn either => obtain rfl | rfl := either <;> decide

/-- When `deinit` was called, the thread is gone, and `main` has returned if it was called. -/
theorem Record.deinit_mem (record : slot.Record number calls) (down : .deinit ∈ calls) :
    slot.thread = none ∧ (.main ∈ calls → slot.exitValue.isSome) := by
  cases record with
  | registered => exact ⟨rfl, nofun⟩
  | prepared => simp at down
  | running record => cases record <;> simp at down
  | stopped => simp at down
  | lost either => obtain rfl | rfl := either <;> simp at down
  | released => exact ⟨rfl, by simp⟩
  | deinitialized => exact ⟨rfl, fun _ => rfl⟩
  | withdrawn either => obtain rfl | rfl := either <;> simp at down

theorem Record.lost_of_panicked {thread : Thread (ω ⊕ WorkerNote) σ}
    (record : slot.Record number calls) (found : slot.thread = some thread)
    (panicked : thread.phase = .panicked) : slot.Lost := by
  obtain ⟨_, name, endpoint, rfl⟩ := record.of_thread found
  exact .panicked panicked

end Slot

namespace Registry

/-- Every call of a registry is a run, so runs comprise all sequences of calls, with the threads of
the workers running in between. In every run, whatever the workers do, the fields of each slot match
its state, and a step moves a slot to its next state or leaves it in its state. Of each worker at
most `init`, `main` and `deinit` are called, in this order and each once; when `deinit` was called
there is no thread, and `main` returned if it was called; and after a panic it is never called. -/
theorem worker_lifecycle (B : Behaviour ω σ) (core : EndpointId) :
    (∀ (outside : Outside ω σ) (registry : Registry ω σ) (net : Network ω)
        (call : RegistryCall ω σ),
      (∀ worker, call = .register worker → outside.registers registry.slots.length worker) →
        Run B core outside registry net (call.perform B core registry net).1
          (call.perform B core registry net).2) ∧
    (∀ (outside : Outside ω σ) (start : Network ω) (registry : Registry ω σ) (net : Network ω),
      Run B core outside {} start registry net →
        ∀ (number : Nat) (slot : Slot ω σ), registry.slots[number]? = some slot →
          slot.Sound ∧
          ∀ (registry' : Registry ω σ) (net' : Network ω),
            Step B core outside registry net registry' net' →
              ∃ slot', registry'.slots[number]? = some slot' ∧ slot.Advances slot') ∧
    (∀ (start : Network (ω ⊕ WorkerNote)) (registry : Registry (ω ⊕ WorkerNote) σ)
        (net : Network (ω ⊕ WorkerNote)),
      start.notes = [] → Run B.widen core .noting {} start registry net → ∀ number : Nat,
        net.callsOf number ∈
          [[], [.init], [.init, .main], [.init, .deinit], [.init, .main, .deinit]] ∧
        ∀ slot, registry.slots[number]? = some slot →
          (.deinit ∈ net.callsOf number →
            slot.thread = none ∧ (.main ∈ net.callsOf number → slot.exitValue.isSome)) ∧
          ∀ thread, slot.thread = some thread → thread.phase = .panicked →
            ∀ (registry' : Registry (ω ⊕ WorkerNote) σ) (net' : Network (ω ⊕ WorkerNote)),
              Run B.widen core .noting registry net registry' net' →
                .deinit ∉ net'.callsOf number) := by
  refine ⟨fun _ => run_call, ?_, ?_⟩
  · intro outside start registry net run number slot found
    exact ⟨run.sound found, fun registry' net' step => step.advances run.sound found⟩
  · intro start registry net silent run number
    have quiet := B.quiet_widen (ν := WorkerNote)
    have logged := run.logged quiet silent
    constructor
    · cases found : registry.slots[number]? with
      | none =>
        rw [logged.nobody (List.getElem?_eq_none_iff.mp found)]
        decide
      | some slot => exact (logged.record found).calls_mem
    · intro slot found
      have record := logged.record found
      refine ⟨record.deinit_mem, ?_⟩
      intro thread running panicked registry' net' later down
      obtain ⟨_, same, _⟩ :=
        later.silent quiet logged Slot.Step.lost found (record.lost_of_panicked running panicked)
      rw [same] at down
      -- At the panic the thread was still there
      cases running.symm.trans (record.deinit_mem down).1

/-! ### A run -/

def leaving : Worker Unit Unit where
  name := "leaving"
  main _ := .done (.leave 0)

def silent : Behaviour Unit Unit :=
  .handling (fun _ => "silent") fun _ handler message => .done ⟨handler, message, none⟩

/-- The worker is registered, prepared and started, returns from `main`, and is stopped and
deinitialized. -/
theorem run_leaving :
    ∃ registry net slot, Run silent.widen ⟨0⟩ .noting {} {} registry net ∧
      registry.slots[0]? = some slot ∧ net.callsOf 0 = [.init, .main, .deinit] := by
  have call := @run_call _ _ silent.widen ⟨0⟩ (.noting : Outside (Unit ⊕ WorkerNote) Unit)
  have registered := call {} {} (.register (leaving.noting 0)) fun worker same =>
    ⟨leaving, (RegistryCall.register.inj same).symm⟩
  have prepared := registered.trans (call _ _ .prepare nofun)
  have started := prepared.trans (call _ _ .start nofun)
  have noted := started.snoc (@Step.slot _ _ _ _ _ _ _ 0 _ _ _ rfl (.work rfl rfl))
  have returned := noted.snoc (@Step.slot _ _ _ _ _ _ _ 0 _ _ _ rfl (.work rfl rfl))
  have stopped := returned.trans (call _ _ .stop nofun)
  exact ⟨_, _, _, stopped.trans (call _ _ .deinit nofun), rfl, rfl⟩

theorem worker_lifecycle_leaving :
    ∃ registry net slot, Run silent.widen ⟨0⟩ .noting {} {} registry net ∧
      registry.slots[0]? = some slot ∧ slot.Sound ∧
      net.callsOf 0 = [.init, .main, .deinit] ∧ slot.thread = none ∧ slot.exitValue.isSome := by
  obtain ⟨registry, net, slot, run, found, calls⟩ := run_leaving
  have sound := ((worker_lifecycle silent.widen ⟨0⟩).2.1 _ _ _ _ run 0 slot found).1
  have orderly := ((worker_lifecycle silent ⟨0⟩).2.2 _ _ _ rfl run 0).2 slot found
  obtain ⟨gone, returned⟩ := orderly.1 (by rw [calls]; decide)
  exact ⟨registry, net, slot, run, found, sound, calls, gone, returned (by rw [calls]; decide)⟩

end Registry

end AgentBus
