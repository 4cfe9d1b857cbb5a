import AgentBus.Proofs.Worker.Lifecycle

/-!
# A worker whose `init` failed

Where `init` fails, `prepare` reports the error, but it leaves the worker prepared like any other.
`Registry.Calls` are sequences of calls with the threads running in between, and
`main_after_failed_init` says what later calls do to the worker: its `main` is called if and only if
it is started before it is deinitialized.
-/

namespace AgentBus

variable {ω σ : Type}

/-! ## Slots -/

namespace Slot

/-- A worker that was deinitialized. -/
structure Released (slot : Slot ω σ) : Prop where
  state : slot.state = .deinitialized
  thread : slot.thread = none

variable {B : Behaviour ω σ} {core : EndpointId} {outside : Outside ω σ}
variable {slot slot' : Slot ω σ} {net net' : Network ω}

theorem prepare_of_ne (other : slot.state ≠ .registered) :
    slot.prepare B core net = (none, slot, net) := by
  unfold prepare
  split
  · next registered _ => exact absurd registered other
  · rfl

theorem start_of_ne (other : slot.state ≠ .prepared) : slot.start = slot := by
  obtain same | ⟨_, _, prepared, _⟩ := slot.start_cases
  · exact same
  · exact absurd prepared other

theorem Step.released (step : slot.Step B core outside net slot' net') (released : slot.Released) :
    slot' = slot ∧ net' = net := by
  obtain ⟨state, thread⟩ := released
  cases step with
  | prepare =>
    rw [prepare_of_ne (by simp [state])]
    exact ⟨rfl, rfl⟩
  | start => exact ⟨start_of_ne (by simp [state]), rfl⟩
  | join => exact ⟨join_of_none thread, rfl⟩
  | deinit =>
    rw [Slot.deinit, if_neg (by simp [state])]
    exact ⟨rfl, rfl⟩
  | work found => simp [thread] at found
  | task found => simp [thread] at found
  | assign _ found => simp [thread] at found
  | crash found => simp [thread] at found

end Slot

section Record

/-- Nothing is done with a worker that was deinitialized. -/
theorem Slot.Step.stays_released {B : Behaviour (ω ⊕ WorkerNote) σ} {core : EndpointId}
    {slot slot' : Slot (ω ⊕ WorkerNote) σ} {net net' : Network (ω ⊕ WorkerNote)}
    (step : slot.Step B core .noting net slot' net') (released : slot.Released) :
    slot'.Released ∧ net'.notes = net.notes := by
  obtain ⟨rfl, rfl⟩ := step.released released
  exact ⟨released, rfl⟩

variable {number : Nat} {calls : List WorkerCall} {slot : Slot (ω ⊕ WorkerNote) σ}

/-- Of a prepared worker `init` was called, and nothing else. -/
theorem Slot.Record.of_prepared (record : slot.Record number calls)
    (prepared : slot.state = .prepared) :
    calls = [.init] ∧ slot.thread = none ∧ ∃ (plain : Worker ω σ) (context : WorkerContext σ),
      slot.worker = some (plain.noting number) ∧ slot.context = some context := by
  cases record with
  | prepared => exact ⟨rfl, rfl, _, _, rfl, rfl⟩
  | _ => contradiction

theorem Slot.Record.released_deinit {B : Behaviour (ω ⊕ WorkerNote) σ}
    (record : slot.Record number calls) (prepared : slot.state = .prepared)
    (net : Network (ω ⊕ WorkerNote)) : (slot.deinit B net).1.Released := by
  cases record with
  | prepared => exact ⟨rfl, rfl⟩
  | _ => contradiction

end Record

/-! ## Sequences of calls -/

namespace Registry

/-- Calls one after the other. In between anything can happen that takes no slot on to another
state: threads go on, are given jobs or panic, and the network changes. -/
inductive Calls (B : Behaviour ω σ) (core : EndpointId) (outside : Outside ω σ)
    (registry : Registry ω σ) (net : Network ω) :
    List (RegistryCall ω σ) → Registry ω σ → Network ω → Prop where
  | nil : Calls B core outside registry net [] registry net
  | call {calls : List (RegistryCall ω σ)} {between : Registry ω σ} {net' : Network ω}
      (call : RegistryCall ω σ) : Calls B core outside registry net calls between net' →
      (∀ worker, call = .register worker → outside.registers between.slots.length worker) →
      Calls B core outside registry net (calls ++ [call]) (call.perform B core between net').1
        (call.perform B core between net').2
  | meanwhile {calls : List (RegistryCall ω σ)} {between after : Registry ω σ}
      {net' net'' : Network ω} : Calls B core outside registry net calls between net' →
      Step B core outside between net' after net'' →
      after.slots.map Slot.state = between.slots.map Slot.state →
      Calls B core outside registry net calls after net''

theorem Calls.run {B : Behaviour ω σ} {core : EndpointId} {outside : Outside ω σ}
    {registry registry' : Registry ω σ} {net net' : Network ω} {calls : List (RegistryCall ω σ)}
    (made : Calls B core outside registry net calls registry' net') :
    Run B core outside registry net registry' net' := by
  induction made with
  | nil => exact .nil
  | call call _ allowed ih => exact ih.trans (run_call _ _ call allowed)
  | meanwhile _ step _ ih => exact ih.snoc step

/-! ## The failing slot -/

section Failing

variable {B : Behaviour ω σ} {core : EndpointId}

/-- The worker at a position is the first that cannot be brought up. -/
def FailsAt (B : Behaviour ω σ) (core : EndpointId) (slots : List (Slot ω σ)) (net : Network ω)
    (number : Nat) : Prop :=
  let before := prepareSlots B core (slots.take number) net
  before.1 = none ∧
    ∃ slot, slots[number]? = some slot ∧ (slot.prepare B core before.2.2).1.isSome = true

theorem prepareSlots_cons_of_none {slot : Slot ω σ} {net : Network ω}
    (fine : (slot.prepare B core net).1 = none) (rest : List (Slot ω σ)) :
    prepareSlots B core (slot :: rest) net =
      let prepared := slot.prepare B core net
      let others := prepareSlots B core rest prepared.2.2
      (others.1, prepared.2.1 :: others.2.1, others.2.2) := by
  rw [prepareSlots, fine]

theorem prepareSlots_cons_of_some {slot : Slot ω σ} {net : Network ω} {error : WorkerError}
    (failed : (slot.prepare B core net).1 = some error) (rest : List (Slot ω σ)) :
    prepareSlots B core (slot :: rest) net =
      (some error, (slot.prepare B core net).2.1 :: rest, (slot.prepare B core net).2.2) := by
  rw [prepareSlots, failed]

theorem failsAt_zero {slot : Slot ω σ} {rest : List (Slot ω σ)} {net : Network ω} :
    FailsAt B core (slot :: rest) net 0 ↔ (slot.prepare B core net).1.isSome = true := by
  constructor
  · rintro ⟨_, _, ⟨⟩, failed⟩
    exact failed
  · intro failed
    exact ⟨rfl, slot, rfl, failed⟩

theorem failsAt_succ {slot : Slot ω σ} {rest : List (Slot ω σ)} {net : Network ω} {number : Nat} :
    FailsAt B core (slot :: rest) net (number + 1) ↔
      (slot.prepare B core net).1 = none ∧
        FailsAt B core rest (slot.prepare B core net).2.2 number := by
  unfold FailsAt
  rw [List.take_succ_cons]
  cases failed : (slot.prepare B core net).1 with
  | some error => simp [prepareSlots_cons_of_some failed]
  | none => simp [prepareSlots_cons_of_none failed]

theorem state_prepare_of_isSome {slot : Slot ω σ} {net : Network ω}
    (failed : (slot.prepare B core net).1.isSome = true) :
    (slot.prepare B core net).2.1.state = .prepared := by
  revert failed
  unfold Slot.prepare
  split
  · exact fun _ => rfl
  · exact nofun

/-- The worker that failed counts as prepared. -/
theorem state_of_failsAt {slots : List (Slot ω σ)} {net : Network ω} {number : Nat}
    (fails : FailsAt B core slots net number) :
    ∃ slot, (prepareSlots B core slots net).2.1[number]? = some slot ∧ slot.state = .prepared := by
  induction slots generalizing net number with
  | nil =>
    obtain ⟨_, _, found, _⟩ := fails
    contradiction
  | cons slot rest ih =>
    cases number with
    | zero =>
      have failed := failsAt_zero.mp fails
      obtain ⟨error, reason⟩ := Option.isSome_iff_exists.mp failed
      rw [prepareSlots_cons_of_some reason]
      exact ⟨_, rfl, state_prepare_of_isSome failed⟩
    | succ number =>
      obtain ⟨fine, later⟩ := failsAt_succ.mp fails
      rw [prepareSlots_cons_of_none fine]
      exact ih later

/-- `prepare` leaves alone whoever is not registered only. -/
theorem getElem?_prepareSlots {slots : List (Slot ω σ)} {number : Nat} {slot : Slot ω σ}
    (found : slots[number]? = some slot) (other : slot.state ≠ .registered) (net : Network ω) :
    (prepareSlots B core slots net).2.1[number]? = some slot := by
  induction slots generalizing number net with
  | nil => contradiction
  | cons first rest ih =>
    cases number with
    | zero =>
      obtain rfl := Option.some.inj found
      have kept : first.prepare B core net = (none, first, net) := Slot.prepare_of_ne other
      have fine : (first.prepare B core net).1 = none := by rw [kept]
      rw [prepareSlots_cons_of_none fine, kept]
      rfl
    | succ number =>
      cases failed : (first.prepare B core net).1 with
      | some error =>
        rw [prepareSlots_cons_of_some failed]
        exact found
      | none =>
        rw [prepareSlots_cons_of_none failed]
        exact ih found _

theorem getElem?_deinitSlots {slots : List (Slot ω σ)} {number : Nat} {slot : Slot ω σ}
    (found : slots[number]? = some slot) (net : Network ω) :
    ∃ net', (deinitSlots B slots net).1[number]? = some (slot.deinit B net').1 := by
  induction slots generalizing number net with
  | nil => contradiction
  | cons first rest ih =>
    cases number with
    | zero =>
      obtain rfl := Option.some.inj found
      exact ⟨net, rfl⟩
    | succ number => exact ih found _

end Failing

/-! ## What becomes of the worker -/

section Fate

variable {B : Behaviour (ω ⊕ WorkerNote) σ} {core : EndpointId}
variable {registry registry' : Registry (ω ⊕ WorkerNote) σ} {net net' : Network (ω ⊕ WorkerNote)}
variable {number : Nat} {calls : List (RegistryCall (ω ⊕ WorkerNote) σ)}

/-- Where calls have brought a worker that was prepared before them: it is still prepared, or it was
started first, or it was deinitialized first, and then its `main` was never called. -/
inductive Fate (number : Nat) (calls : List (RegistryCall (ω ⊕ WorkerNote) σ))
    (registry : Registry (ω ⊕ WorkerNote) σ) (net : Network (ω ⊕ WorkerNote)) : Prop where
  | waiting {slot : Slot (ω ⊕ WorkerNote) σ} : .start ∉ calls → .deinit ∉ calls →
      registry.slots[number]? = some slot → slot.state = .prepared → Fate number calls registry net
  | started {earlier rest : List (RegistryCall (ω ⊕ WorkerNote) σ)} :
      calls = earlier ++ .start :: rest → .deinit ∉ earlier → Fate number calls registry net
  | released {slot : Slot (ω ⊕ WorkerNote) σ} : .deinit ∈ calls →
      registry.slots[number]? = some slot → slot.Released → .main ∉ net.callsOf number →
      Fate number calls registry net

theorem Calls.logged (quiet : B.Quiet) (logged : registry.Logged net)
    (made : Calls B core .noting registry net calls registry' net') : registry'.Logged net' :=
  logged.run quiet made.run

theorem Fate.call (quiet : B.Quiet) (logged : registry.Logged net)
    (fate : Fate number calls registry net) (call : RegistryCall (ω ⊕ WorkerNote) σ)
    (allowed : ∀ worker, call = .register worker →
      (Outside.noting : Outside (ω ⊕ WorkerNote) σ).registers registry.slots.length worker) :
    Fate number (calls ++ [call]) (call.perform B core registry net).1
      (call.perform B core registry net).2 := by
  cases fate with
  | @waiting slot unstarted kept found prepared =>
    have record := logged.record found
    obtain ⟨called, threadless, _⟩ := record.of_prepared prepared
    -- The worker is still prepared after every call but the two that were not made yet
    have waits (other : call ≠ .start) (other' : call ≠ .deinit)
        (same : (call.perform B core registry net).1.slots[number]? = some slot) :
        Fate number (calls ++ [call]) (call.perform B core registry net).1
          (call.perform B core registry net).2 :=
      .waiting (by simp [unstarted, Ne.symm other]) (by simp [kept, Ne.symm other']) same prepared
    cases call with
    | register worker => exact waits nofun nofun (slots_register worker found)
    | prepare =>
      exact waits nofun nofun (getElem?_prepareSlots found (by simp [prepared]) net)
    | start => exact .started rfl kept
    | stop =>
      refine waits nofun nofun ?_
      rw [RegistryCall.perform, Registry.stop, List.getElem?_map, found]
      exact congrArg some (slot.join_of_none threadless)
    | deinit =>
      obtain ⟨between, down⟩ := getElem?_deinitSlots (B := B) found net
      refine .released (by simp) down (record.released_deinit prepared between) ?_
      show .main ∉ (deinitSlots B registry.slots net).2.callsOf number
      rw [logged.callsOf_deinit quiet, called]
      split
      · decide
      · decide
  | @started earlier rest split kept =>
    have longer : calls ++ [call] = earlier ++ .start :: (rest ++ [call]) := by
      rw [split, List.append_assoc]
      rfl
    exact .started longer kept
  | released made found released uncalled =>
    have run : Run B core .noting registry net _ _ := run_call registry net call allowed
    obtain ⟨_, same, slot', found', released'⟩ :=
      run.silent quiet logged Slot.Step.stays_released found released
    rw [← same] at uncalled
    exact .released (List.mem_append_left _ made) found' released' uncalled

/-- What happens between calls starts nobody and deinitializes nobody. -/
theorem Fate.meanwhile (quiet : B.Quiet) (logged : registry.Logged net)
    (fate : Fate number calls registry net) (step : Step B core .noting registry net registry' net')
    (same : registry'.slots.map Slot.state = registry.slots.map Slot.state) :
    Fate number calls registry' net' := by
  cases fate with
  | waiting unstarted kept found prepared =>
    have states := congrArg (·[number]?) same
    simp only [List.getElem?_map, found, Option.map_some] at states
    obtain ⟨slot', found', state⟩ := Option.map_eq_some_iff.mp states
    exact .waiting unstarted kept found' (state.trans prepared)
  | started split kept => exact .started split kept
  | released made found released uncalled =>
    obtain ⟨_, same, slot', found', released'⟩ :=
      (Run.nil.snoc step).silent quiet logged Slot.Step.stays_released found released
    rw [← same] at uncalled
    exact .released made found' released' uncalled

/-- A prepared worker, whatever is called later on. -/
theorem Calls.fate (quiet : B.Quiet) (logged : registry.Logged net)
    {slot : Slot (ω ⊕ WorkerNote) σ} (found : registry.slots[number]? = some slot)
    (prepared : slot.state = .prepared)
    (made : Calls B core .noting registry net calls registry' net') :
    Fate number calls registry' net' := by
  induction made with
  | nil => exact .waiting List.not_mem_nil List.not_mem_nil found prepared
  | call call made allowed ih => exact ih.call quiet (made.logged quiet logged) call allowed
  | meanwhile made step same ih => exact ih.meanwhile quiet (made.logged quiet logged) step same

theorem map_state_set {slots : List (Slot ω σ)} {slot slot' : Slot ω σ}
    (found : slots[number]? = some slot) (same : slot'.state = slot.state) :
    (slots.set number slot').map Slot.state = slots.map Slot.state := by
  obtain ⟨bound, rfl⟩ := List.getElem?_eq_some_iff.mp found
  have bound' : number < (slots.map Slot.state).length := by rwa [List.length_map]
  rw [List.map_set, same, ← List.getElem_map Slot.state (h := bound'), List.set_getElem_self]

/-- A prepared worker that is started comes to its `main`. -/
theorem Calls.reaches_main (logged : registry'.Logged net')
    {slot : Slot (ω ⊕ WorkerNote) σ} (found : registry'.slots[number]? = some slot)
    (prepared : slot.state = .prepared)
    (made : Calls B core .noting registry net calls registry' net') :
    ∃ registry'' net'',
      Calls B core .noting registry net (calls ++ [.start]) registry'' net'' ∧
        .main ∈ net''.callsOf number := by
  have record := logged.record found
  obtain ⟨called, _, plain, context, worker, owned⟩ := record.of_prepared prepared
  have started := made.call .start nofun
  have running : slot.start.thread = some (.spawn (plain.noting number) context) := by
    simp only [Slot.start, prepared, worker, owned]
  have found' : registry'.start.slots[number]? = some slot.start := by
    rw [Registry.start, List.getElem?_map, found]
    rfl
  -- The first thing that the thread does is to note that `main` was called
  have step : Step B core .noting registry'.start net' _ _ := .slot found' (.work running rfl)
  refine ⟨_, _, started.meanwhile step (map_state_set found' rfl), ?_⟩
  have grown : (Network.perform (.emit (.inr (WorkerNote.mk number .main))) net').2.notes =
      net'.notes ++ [WorkerCall.main].map (WorkerNote.mk number) :=
    Network.notes_perform_emit_note net' _
  show .main ∈ Network.callsOf (Network.perform _ net').2 number
  rw [Network.callsOf_append grown, if_pos rfl]
  exact List.mem_append_right _ (List.mem_singleton_self _)

end Fate

/-! ## Failed workers -/

/-- A worker whose `init` failed: whatever was called before, and whatever is called afterwards, its
`main` is called only if `start` was called before `deinit`; and as long as neither was, calling
`start` leads to its `main`. -/
theorem main_after_failed_init {B : Behaviour ω σ} {core : EndpointId}
    {start net net' : Network (ω ⊕ WorkerNote)} {registry registry' : Registry (ω ⊕ WorkerNote) σ}
    {earlier later : List (RegistryCall (ω ⊕ WorkerNote) σ)} {number : Nat}
    (silent : start.notes = [])
    (before : Calls B.widen core .noting {} start earlier registry net)
    (fails : FailsAt B.widen core registry.slots net number)
    (after : Calls B.widen core .noting (registry.prepare B.widen core net).2.1
      (registry.prepare B.widen core net).2.2 later registry' net') :
    (.main ∈ net'.callsOf number →
      ∃ first rest, later = first ++ .start :: rest ∧ .deinit ∉ first) ∧
    (.start ∉ later → .deinit ∉ later →
      ∃ registry'' net'',
        Calls B.widen core .noting (registry.prepare B.widen core net).2.1
          (registry.prepare B.widen core net).2.2 (later ++ [.start]) registry'' net'' ∧
        .main ∈ net''.callsOf number) := by
  have quiet := B.quiet_widen (ν := WorkerNote)
  have prepare := before.call .prepare nofun
  have logged := prepare.run.logged quiet silent
  obtain ⟨slot, found, prepared⟩ := state_of_failsAt fails
  have fate := after.fate quiet logged found prepared
  constructor
  · intro called
    cases fate with
    | waiting unstarted kept found prepared =>
      have record := (after.logged quiet logged).record found
      rw [(record.of_prepared prepared).1] at called
      contradiction
    | started split kept => exact ⟨_, _, split, kept⟩
    | released _ _ _ uncalled => exact absurd called uncalled
  · intro unstarted kept
    cases fate with
    | waiting _ _ found prepared =>
      exact after.reaches_main (after.logged quiet logged) found prepared
    | started split => simp [split] at unstarted
    | released made => exact absurd made kept

/-! ### A worker that fails -/

def broken : Worker Unit Unit where
  name := "broken"
  init _ := .done { failure := some (.internal "no modem") }
  main _ := .done (.leave 0)

def withBroken : Registry (Unit ⊕ WorkerNote) Unit :=
  Registry.register {} (broken.noting 0)

theorem calls_register_broken :
    Calls silent.widen ⟨0⟩ .noting {} {} [.register (broken.noting 0)] withBroken {} :=
  Calls.nil.call (.register (broken.noting 0)) fun _ same =>
    ⟨broken, (RegistryCall.register.inj same).symm⟩

theorem failsAt_broken : FailsAt silent.widen ⟨0⟩ withBroken.slots {} 0 :=
  failsAt_zero.mpr rfl

/-- `prepare` returns an error, and `start` runs the worker all the same. -/
theorem started_after_failed_init :
    (withBroken.prepare silent.widen ⟨0⟩ {}).1 =
        some (.notPrepared "broken" (.internal "no modem")) ∧
      ∃ registry net,
        Calls silent.widen ⟨0⟩ .noting {} {} [.register (broken.noting 0), .prepare, .start]
          registry net ∧
        net.callsOf 0 = [.init, .main] := by
  have prepared := calls_register_broken.call .prepare nofun
  have started := prepared.call .start nofun
  have noted := started.meanwhile (@Step.slot _ _ _ _ _ _ _ 0 _ _ _ rfl (.work rfl rfl)) rfl
  exact ⟨rfl, _, _, noted, rfl⟩

theorem main_after_failed_init_broken :
    ∃ registry net,
      Calls silent.widen ⟨0⟩ .noting (withBroken.prepare silent.widen ⟨0⟩ {}).2.1
        (withBroken.prepare silent.widen ⟨0⟩ {}).2.2 [.stop, .start] registry net ∧
      .main ∈ net.callsOf 0 :=
  have stopped := Calls.nil.call .stop nofun
  (main_after_failed_init rfl calls_register_broken failsAt_broken stopped).2 (by simp) (by simp)

end Registry

end AgentBus
