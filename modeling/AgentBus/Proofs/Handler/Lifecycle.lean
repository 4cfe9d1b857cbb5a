import Mathlib.Data.List.Nodup
import AgentBus.Proofs.Handler.FrozenPass

/-!
# The life of a handler

Whatever the owner of a chain does with it, and whatever its handlers do, a handler that was
finalized or taken out of the chain is never called again (`lifecycle`).

* `ChainOperation`, `history` — the owner's operations, and the records that they leave.
* `ChainRecord.Regular` — what every single operation does to the numbers in a chain, and whom it
  calls. All that follows rests on this alone.
* `Chained` — a list of records, each of which goes on where the one before it ended.
* `Gone` — the number of a handler that is not in the chain any more. Nobody comes back, since a
  number is given once; this carries all that is said about later calls.
-/

namespace AgentBus

variable {ω σ : Type}

/-! ## Operations and their records -/

inductive ChainOperation (σ : Type) where
  | register (handler : σ)
  | deregister (id : HandlerId)
  | setEnabled (id : HandlerId) (enabled : Bool)
  | startAll (bound : Bool)
  | offer (message : Message)
  | finishAll

inductive ChainReturn where
  | nothing
  | registered (id : HandlerId)
  | offered (handlers : Nat)
  | finished (left : Nat)
  deriving DecidableEq

def ChainOperation.program (B : Behaviour ω σ) (own : EndpointId) (chain : Chain σ) :
    ChainOperation σ → BusProgram ω (ChainReturn × Chain σ)
  | .register handler =>
    let registered := chain.register handler
    .done (.registered registered.1, registered.2)
  | .deregister id => .done (.nothing, chain.deregister id)
  | .setEnabled id enabled => .done (.nothing, chain.setEnabled id enabled)
  | .startAll bound => (chain.startAll B own bound).bind fun started => .done (.nothing, started)
  | .offer message =>
    (chain.offer B own message).bind fun offered => .done (.offered offered.1, offered.2)
  | .finishAll =>
    (chain.finishAll B own).bind fun finished => .done (.finished finished.1, finished.2)

structure ChainRecord (σ : Type) where
  operation : ChainOperation σ
  before : Chain σ
  notes : List ChainNote
  returned : ChainReturn
  after : Chain σ

namespace ChainRecord

/-- The number that was given to a new handler, if there was one. -/
def given (record : ChainRecord σ) : List HandlerId :=
  match record.returned with
  | .registered id => [id]
  | _ => []

def calls (record : ChainRecord σ) : List (Callback × Scope) :=
  callsIn record.notes

/-- The operation has applied a deregistration of a number: it is one, a callback asked for one, or
the whole chain was released. -/
def Deregisters (record : ChainRecord σ) (id : HandlerId) : Prop :=
  match record.operation with
  | .deregister other => other = id
  | .finishAll => True
  | _ => .deregister id ∈ changesIn record.notes

end ChainRecord

namespace Chain

section History

variable {state : Type} (B : Behaviour ω σ) (own : EndpointId)
variable (perform : Program.Performer (busSignature ω) state)

/-- The record of an operation, and the state of the surroundings after it. The notes are those that
the same operation takes when the handlers have notebooks. -/
def record (operation : ChainOperation σ) (chain : Chain σ) (s : state) : ChainRecord σ × state :=
  let ran := (operation.program B own chain).run perform s
  let noted := (operation.program B.noting own chain).run (noteTaker perform) (s, [])
  (⟨operation, chain, noted.2.2, ran.1.1, ran.1.2⟩, ran.2)

def history : List (ChainOperation σ) → Chain σ → state → List (ChainRecord σ)
  | [], _, _ => []
  | operation :: operations, chain, s =>
    let recorded := record B own perform operation chain s
    recorded.1 :: history operations recorded.1.after recorded.2

end History

/-! ## What an operation does -/

/-- The numbers of a chain ascend, and are below the next one. -/
structure Numbered (chain : Chain σ) : Prop where
  ascending : chain.ids.Pairwise fun id later => id.number < later.number
  below : ∀ id ∈ chain.ids, id.number < chain.nextId

theorem ids_setEnabled (chain : Chain σ) (id : HandlerId) (enabled : Bool) :
    (chain.setEnabled id enabled).ids = chain.ids := by
  simp only [ids, setEnabled, List.map_map]
  apply List.map_congr_left
  intro entry _
  simp only [Function.comp_apply]
  split <;> rfl

theorem ids_deregister (chain : Chain σ) (id : HandlerId) :
    (chain.deregister id).ids = chain.ids.filter (· ≠ id) := by
  simp only [ids, deregister, List.filter_map]
  rfl

theorem ids_amend_of_labels {chain : Chain σ} {entries : List (Entry σ)} {bound : Bool}
    {changes : List ChainChange} (ids : entries.map Entry.id = chain.entries.map Entry.id) :
    (Chain.amend { chain with entries, bound } changes).ids =
      chain.ids.filter fun id => .deregister id ∉ changes := by
  rw [ids_amend, Chain.ids, ids]
  rfl

section Passes

variable (B : Behaviour ω σ) (own : EndpointId) (chain : Chain σ)

theorem annotates_startAll (bound : Bool) :
    Annotates (chain.startAll B own bound) (chain.startAll B.noting own bound)
      fun started notes =>
        callsIn notes = callsFor .init own bound chain.entries ∧
        started.ids = (chain.ids.filter fun id => .deregister id ∉ changesIn notes) ∧
        started.nextId = chain.nextId := by
  apply (annotates_startEntries B own bound chain.entries []).bind
  rintro started notes ⟨called, asked, ids⟩
  rw [List.nil_append] at asked
  refine .done ?_
  rw [List.append_nil, asked, ids_amend_of_labels ids, nextId_amend]
  exact ⟨called, rfl, rfl⟩

theorem ids_offer_of_labels {chain after : Chain σ} {changes : List ChainChange}
    (labels : after.entries.map Entry.label =
      survivors changes (chain.entries.map Entry.label)) :
    after.ids = chain.ids.filter fun id => .deregister id ∉ changes := by
  have firsts := congrArg (List.map Prod.fst) labels
  rw [survivors, List.filter_map, List.map_map, List.map_map, List.map_map] at firsts
  rw [ids, ids, List.filter_map]
  exact firsts

/-- Two handlers of a chain with the same number are the same. -/
theorem disabled_iff {chain : Chain σ} (distinct : chain.ids.Nodup) {entry : Entry σ}
    (found : entry ∈ chain.entries) :
    (entry.id, false) ∈ chain.entries.map Entry.label ↔ entry.enabled = false := by
  constructor
  · intro named
    obtain ⟨other, found', same⟩ := List.mem_map.mp named
    have sameId : other.id = entry.id := congrArg Prod.fst same
    have disabled : other.enabled = false := congrArg Prod.snd same
    rw [← List.inj_on_of_nodup_map distinct found' found sameId]
    exact disabled
  · intro disabled
    exact List.mem_map.mpr ⟨entry, found, by rw [Entry.label, disabled]⟩

/-- The size of a chain after changes depends on its labels alone. -/
theorem size_amend_of_labels {chain : Chain σ} {entries : List (Entry σ)}
    {changes : List ChainChange}
    (labels : entries.map Entry.label = chain.entries.map Entry.label) :
    (Chain.amend { chain with entries } changes).size =
      (chain.entries.filter fun entry => .deregister entry.id ∉ changes).length := by
  have sized := congrArg List.length (map_label_amend { chain with entries } changes)
  rw [labels, survivors_labels, List.length_map, List.length_map] at sized
  exact sized

/-- Disabled handlers are released by changes of their own. These name no enabled handler of a
chain whose numbers differ, so only changes that callbacks ask for lower the count. -/
theorem annotates_finishAll :
    Annotates (chain.finishAll B own) (chain.finishAll B.noting own)
      fun finished notes =>
        callsIn notes = callsFor .finalize own chain.bound chain.entries ∧
        finished.2.entries = [] ∧ finished.2.nextId = chain.nextId ∧
        (chain.ids.Nodup → finished.1 =
          ((enabledOf chain.entries).filter
            fun entry => .deregister entry.id ∉ changesIn notes).length) := by
  apply (annotates_finishEntries B own chain.bound chain.entries []).bind
  rintro finished notes ⟨called, released, labels⟩
  refine .done ⟨by simpa using called, rfl, by simp, ?_⟩
  intro distinct
  refine (size_amend_of_labels labels).trans (congrArg List.length ?_)
  rw [enabledOf, List.filter_filter, List.append_nil]
  apply List.filter_congr
  intro entry found
  rw [Bool.eq_iff_iff]
  simp only [decide_eq_true_eq, Bool.and_eq_true, released, List.not_mem_nil, false_or,
    disabled_iff distinct found]
  cases entry.enabled <;> simp

end Passes

end Chain

/-! ## One operation -/

open Chain

/-- A new handler gets the next number, which is used up. Nobody else gets one. -/
def ChainRecord.Gives (record : ChainRecord σ) : Prop :=
  record.given = [] ∧ record.after.nextId = record.before.nextId ∨
    record.given = [⟨record.before.nextId⟩] ∧ record.after.nextId = record.before.nextId + 1

/-- What is left of the numbers before an operation. The new one comes after them. -/
def ChainRecord.Keeps (record : ChainRecord σ) (kept : List HandlerId) : Prop :=
  kept.Sublist record.before.ids ∧ record.after.ids = kept ++ record.given ∧
    ∀ id ∈ kept, ¬ record.Deregisters id

/-- What an operation does to the numbers in a chain, and whom it calls. -/
structure ChainRecord.Regular (own : EndpointId) (record : ChainRecord σ) : Prop where
  given : record.Gives
  ids : ∃ kept, record.Keeps kept
  called : (record.calls.map fun call => call.2.id).Sublist record.before.ids
  finalized : ∀ call ∈ record.calls, call.1 = .finalize → record.after.ids = []
  finished : record.operation = .finishAll →
    record.calls = callsFor .finalize own record.before.bound record.before.entries ∧
    record.after.entries = [] ∧
    (record.before.ids.Nodup → record.returned =
      .finished ((enabledOf record.before.entries).filter
        fun entry => .deregister entry.id ∉ changesIn record.notes).length)

theorem ids_callsFor_sublist (callback : Callback) (own : EndpointId) (bound : Bool)
    (entries : List (Entry σ)) :
    ((callsFor callback own bound entries).map fun call => call.2.id).Sublist
      (entries.map Entry.id) := by
  rw [callsFor, List.map_map]
  exact List.filter_sublist.map _

theorem callback_of_mem_callsFor {callback : Callback} {own : EndpointId} {bound : Bool}
    {entries : List (Entry σ)} {call : Callback × Scope}
    (called : call ∈ callsFor callback own bound entries) : call.1 = callback := by
  obtain ⟨_, _, rfl⟩ := List.mem_map.mp called
  rfl

/-- An operation of the owner alone, which calls nobody. -/
theorem ChainRecord.regular_of_silent {record : ChainRecord σ} {own : EndpointId}
    (silent : record.notes = []) (given : record.Gives) (kept : List HandlerId)
    (ids : record.Keeps kept) (going : record.operation ≠ .finishAll) : record.Regular own where
  given := given
  ids := ⟨kept, ids⟩
  called := by simp [ChainRecord.calls, silent]
  finalized := by simp [ChainRecord.calls, silent]
  finished ends := absurd ends going

/-- A pass that finalizes nobody. -/
theorem ChainRecord.regular_of_pass {record : ChainRecord σ} {callback : Callback}
    {own : EndpointId} {bound : Bool} (notFinal : callback ≠ .finalize)
    (called : callsIn record.notes = callsFor callback own bound record.before.entries)
    (ids : record.after.ids =
      record.before.ids.filter fun id => .deregister id ∉ changesIn record.notes)
    (nextId : record.after.nextId = record.before.nextId) (given : record.given = [])
    (deregisters : ∀ id, record.Deregisters id ↔ .deregister id ∈ changesIn record.notes)
    (going : record.operation ≠ .finishAll) : record.Regular own where
  given := .inl ⟨given, nextId⟩
  ids := by
    refine ⟨_, List.filter_sublist, by rw [given, List.append_nil, ids], ?_⟩
    intro id kept
    have unnamed := List.of_mem_filter kept
    rw [deregisters]
    exact of_decide_eq_true unnamed
  called := by
    rw [ChainRecord.calls, called]
    exact ids_callsFor_sublist _ _ _ _
  finalized call mem final := by
    rw [ChainRecord.calls, called] at mem
    exact absurd ((callback_of_mem_callsFor mem).symm.trans final) notFinal
  finished ends := absurd ends going

namespace Chain

section History

variable {state : Type} (B : Behaviour ω σ) (own : EndpointId)
variable (perform : Program.Performer (busSignature ω) state)

theorem annotates_program (operation : ChainOperation σ) (chain : Chain σ) :
    Annotates (operation.program B own chain) (operation.program B.noting own chain)
      fun result notes =>
        (⟨operation, chain, notes, result.1, result.2⟩ : ChainRecord σ).Regular own := by
  -- What the owner does alone calls nobody; each of the passes has its lemma
  cases operation with
  | register handler =>
    refine .done (ChainRecord.regular_of_silent rfl (.inr ⟨rfl, rfl⟩) chain.ids ?_ (by simp))
    refine ⟨List.Sublist.refl _, ?_, ?_⟩
    · simp [ids, register, ChainRecord.given]
    · simp [ChainRecord.Deregisters]
  | deregister id =>
    refine .done (ChainRecord.regular_of_silent rfl (.inl ⟨rfl, rfl⟩)
      (chain.ids.filter (· ≠ id)) ?_ (by simp))
    refine ⟨List.filter_sublist, ?_, ?_⟩
    · simp [ids_deregister, ChainRecord.given]
    · intro other kept same
      have differs := List.of_mem_filter kept
      simp only [decide_eq_true_eq] at differs
      exact differs (Eq.symm same)
  | setEnabled id enabled =>
    refine .done (ChainRecord.regular_of_silent rfl (.inl ⟨rfl, rfl⟩) chain.ids ?_ (by simp))
    refine ⟨List.Sublist.refl _, ?_, ?_⟩
    · simp [ids_setEnabled, ChainRecord.given]
    · simp [ChainRecord.Deregisters]
  | startAll bound =>
    apply (annotates_startAll B own chain bound).bind
    rintro started notes ⟨called, ids, nextId⟩
    rw [← List.append_nil notes] at called ids
    exact .done (ChainRecord.regular_of_pass (by simp : Callback.init ≠ .finalize) called ids nextId
      rfl (fun _ => Iff.rfl) (by simp))
  | offer message =>
    apply (annotates_offer B own chain message).bind
    rintro offered notes ⟨called, -, labels, nextId⟩
    rw [← List.append_nil notes] at called labels
    exact .done (ChainRecord.regular_of_pass (by simp : Callback.handle ≠ .finalize) called
      (ids_offer_of_labels labels) nextId rfl (fun _ => Iff.rfl) (by simp))
  | finishAll =>
    apply (annotates_finishAll B own chain).bind
    rintro finished notes ⟨called, empty, nextId, count⟩
    refine .done ⟨.inl ⟨rfl, nextId⟩, ⟨[], List.nil_sublist _, ?_, ?_⟩, ?_, ?_, ?_⟩
    all_goals simp only [List.append_nil, ChainRecord.calls, ChainRecord.given, called]
    · simp [ids, empty]
    · simp
    · exact ids_callsFor_sublist _ _ _ _
    · simp [ids, empty]
    · exact fun _ => ⟨trivial, empty, fun distinct => congrArg _ (count distinct)⟩

theorem regular_record (operation : ChainOperation σ) (chain : Chain σ) (s : state) :
    (record B own perform operation chain s).1.Regular own := by
  obtain ⟨notes, ran, regular⟩ := (annotates_program B own operation chain).run perform s []
  simp only [record, ran]
  exact regular

end History

end Chain

/-! ## Whole histories -/

/-- Regular records, each of which goes on where the one before it ended. -/
inductive Chained (own : EndpointId) : Chain σ → List (ChainRecord σ) → Prop where
  | nil (chain : Chain σ) : Chained own chain []
  | cons {record : ChainRecord σ} {records : List (ChainRecord σ)} (regular : record.Regular own)
    (rest : Chained own record.after records) : Chained own record.before (record :: records)

theorem chained_history {state : Type} (B : Behaviour ω σ) (own : EndpointId)
    (perform : Program.Performer (busSignature ω) state) (operations : List (ChainOperation σ))
    (chain : Chain σ) (s : state) :
    Chained own chain (history B own perform operations chain s) := by
  induction operations generalizing chain s with
  | nil => exact .nil chain
  | cons operation operations ih => exact .cons (regular_record ..) (ih ..)

/-- A number that was given to a handler, which is not in the chain any more. -/
structure Chain.Gone (chain : Chain σ) (id : HandlerId) : Prop where
  absent : id ∉ chain.ids
  given : id.number < chain.nextId

namespace ChainRecord.Regular

variable {own : EndpointId} {record : ChainRecord σ}

theorem nextId_le (regular : record.Regular own) :
    record.before.nextId ≤ record.after.nextId := by
  rcases regular.given with ⟨_, same⟩ | ⟨_, next⟩
  · exact Nat.le_of_eq same.symm
  · omega

theorem given_bounds (regular : record.Regular own) {id : HandlerId} (given : id ∈ record.given) :
    id.number = record.before.nextId ∧ record.after.nextId = record.before.nextId + 1 := by
  rcases regular.given with ⟨none, _⟩ | ⟨one, next⟩
  · rw [none] at given
    cases given
  · rw [one, List.mem_singleton] at given
    exact ⟨congrArg HandlerId.number given, next⟩

theorem numbered (regular : record.Regular own) (before : record.before.Numbered) :
    record.after.Numbered := by
  obtain ⟨kept, sublist, ids, _⟩ := regular.ids
  have keptBelow : ∀ id ∈ kept, id.number < record.before.nextId :=
    fun id mem => before.below id (sublist.subset mem)
  constructor
  · -- A new number stands behind the old ones, and is above them
    rw [ids, List.pairwise_append]
    refine ⟨before.ascending.sublist sublist, ?_, ?_⟩
    · rcases regular.given with ⟨none, _⟩ | ⟨one, _⟩
      · simp [none]
      · simp [one]
    · intro id inKept new inGiven
      have bound := keptBelow id inKept
      have fresh := (regular.given_bounds inGiven).1
      omega
  · intro id mem
    rw [ids, List.mem_append] at mem
    cases mem with
    | inl inKept => exact Nat.lt_of_lt_of_le (keptBelow id inKept) regular.nextId_le
    | inr inGiven =>
      have fresh := regular.given_bounds inGiven
      omega

/-- Nobody comes back, since new numbers are given to new handlers. -/
theorem gone (regular : record.Regular own) {id : HandlerId} (gone : record.before.Gone id) :
    record.after.Gone id := by
  obtain ⟨kept, sublist, ids, _⟩ := regular.ids
  refine ⟨?_, Nat.lt_of_lt_of_le gone.given regular.nextId_le⟩
  rw [ids, List.mem_append]
  rintro (inKept | inGiven)
  · exact gone.absent (sublist.subset inKept)
  · -- The number would be given a second time
    have fresh := (regular.given_bounds inGiven).1
    have old := gone.given
    omega

theorem gone_of_deregisters (regular : record.Regular own) {id : HandlerId}
    (given : id.number < record.before.nextId) (removed : record.Deregisters id) :
    record.after.Gone id := by
  obtain ⟨kept, _, ids, unnamed⟩ := regular.ids
  refine ⟨?_, Nat.lt_of_lt_of_le given regular.nextId_le⟩
  rw [ids, List.mem_append]
  rintro (inKept | inGiven)
  · exact unnamed id inKept removed
  · have fresh := (regular.given_bounds inGiven).1
    omega

theorem mem_of_called (regular : record.Regular own) {call : Callback × Scope}
    (called : call ∈ record.calls) : call.2.id ∈ record.before.ids :=
  regular.called.subset (List.mem_map_of_mem called)

theorem gone_of_finalized (regular : record.Regular own) (before : record.before.Numbered)
    {call : Callback × Scope} (called : call ∈ record.calls) (final : call.1 = .finalize) :
    record.after.Gone call.2.id where
  absent := by simp [regular.finalized call called final]
  given := Nat.lt_of_lt_of_le (before.below _ (regular.mem_of_called called)) regular.nextId_le

end ChainRecord.Regular

theorem Chain.Numbered.nodup {chain : Chain σ} (numbered : chain.Numbered) : chain.ids.Nodup := by
  apply numbered.ascending.imp
  rintro id later ascends rfl
  omega

namespace Chained

variable {own : EndpointId} {chain : Chain σ} {records : List (ChainRecord σ)}

theorem at_record {earlier later : List (ChainRecord σ)} {record : ChainRecord σ}
    (chained : Chained own chain (earlier ++ record :: later)) :
    record.Regular own ∧ Chained own record.after later ∧
      chain.nextId ≤ record.before.nextId := by
  induction earlier generalizing chain with
  | nil =>
    cases chained with
    | cons regular rest => exact ⟨regular, rest, Nat.le_refl _⟩
  | cons first earlier ih =>
    cases chained with
    | cons regular rest =>
      obtain ⟨regular', rest', later⟩ := ih rest
      exact ⟨regular', rest', Nat.le_trans regular.nextId_le later⟩

theorem given_below {earlier later : List (ChainRecord σ)} {record : ChainRecord σ}
    (chained : Chained own chain (earlier ++ record :: later)) :
    ∀ id ∈ earlier.flatMap ChainRecord.given, id.number < record.before.nextId := by
  induction earlier generalizing chain with
  | nil => simp
  | cons first earlier ih =>
    cases chained with
    | cons regular rest =>
      intro id given
      rw [List.flatMap_cons, List.mem_append] at given
      cases given with
      | inl now =>
        have fresh := regular.given_bounds now
        have grows := rest.at_record.2.2
        omega
      | inr later => exact ih rest id later

theorem numbered (chained : Chained own chain records) (before : chain.Numbered) :
    ∀ record ∈ records, record.before.Numbered ∧ record.after.Numbered := by
  induction chained with
  | nil chain => simp
  | cons regular rest ih =>
    have after := regular.numbered before
    rintro record (_ | ⟨_, mem⟩)
    · exact ⟨before, after⟩
    · exact ih after record mem

/-- New numbers are above all that were given before. -/
theorem nodup_given (chained : Chained own chain records) :
    (records.flatMap ChainRecord.given).Nodup ∧
      ∀ id ∈ records.flatMap ChainRecord.given, chain.nextId ≤ id.number := by
  induction chained with
  | nil chain => simp
  | @cons record records regular rest ih =>
    obtain ⟨distinct, above⟩ := ih
    rw [List.flatMap_cons]
    constructor
    · apply List.nodup_append.mpr
      refine ⟨?_, distinct, ?_⟩
      · rcases regular.given with ⟨none, _⟩ | ⟨one, _⟩
        · simp [none]
        · simp [one]
      · rintro id now _ later rfl
        have fresh := regular.given_bounds now
        have new := above id later
        omega
    · intro id given
      cases List.mem_append.mp given with
      | inl now => exact Nat.le_of_eq (regular.given_bounds now).1.symm
      | inr later => exact Nat.le_trans regular.nextId_le (above id later)

/-- Nobody who is gone is called. -/
theorem uncalled (chained : Chained own chain records) {id : HandlerId} (gone : chain.Gone id) :
    ∀ call ∈ records.flatMap ChainRecord.calls, call.2.id ≠ id := by
  induction chained with
  | nil chain => simp
  | cons regular rest ih =>
    intro call called
    rw [List.flatMap_cons, List.mem_append] at called
    cases called with
    | inl now =>
      rintro rfl
      exact gone.absent (regular.mem_of_called now)
    | inr later => exact ih (regular.gone gone) call later

/-- Nobody is called after a call of `finalize`: in the same pass, since every handler is called
once; later, since the handler is gone. -/
theorem silent (chained : Chained own chain records) (before : chain.Numbered) :
    (records.flatMap ChainRecord.calls).Pairwise fun call later =>
      call.1 = .finalize → later.2.id ≠ call.2.id := by
  induction chained with
  | nil chain => simp
  | @cons record records regular rest ih =>
    rw [List.flatMap_cons, List.pairwise_append]
    refine ⟨?_, ih (regular.numbered before), ?_⟩
    · have once := List.pairwise_map.mp (before.nodup.sublist regular.called)
      exact once.imp fun differ _ same => differ same.symm
    · intro call called later calledLater final
      exact rest.uncalled (regular.gone_of_finalized before called final) later calledLater

theorem ids_eq_nil {earlier later : List (ChainRecord σ)} {record : ChainRecord σ}
    (chained : Chained own chain (earlier ++ record :: later)) (empty : chain.ids = [])
    (nobody : ∀ record ∈ earlier, record.given = []) : record.before.ids = [] := by
  induction earlier generalizing chain with
  | nil =>
    cases chained
    exact empty
  | cons first earlier ih =>
    cases chained with
    | cons regular rest =>
      apply ih rest _ fun record mem => nobody record (List.mem_cons_of_mem _ mem)
      obtain ⟨kept, sublist, ids, _⟩ := regular.ids
      rw [empty, List.sublist_nil] at sublist
      rw [ids, sublist, nobody first List.mem_cons_self]
      rfl

end Chained

/-! ## The life of a handler -/

/-- What holds of all that the owner of a chain and its handlers do. -/
structure Lawful (own : EndpointId) (records : List (ChainRecord σ)) : Prop where
  /-- Numbers ascend along the chain and are below the next one. -/
  numbered : ∀ record ∈ records, record.after.Numbered
  /-- No number is given twice. -/
  distinct : (records.flatMap ChainRecord.given).Nodup
  /-- Nobody is called after its `finalize`, not even to finalize it again. -/
  silent : (records.flatMap ChainRecord.calls).Pairwise fun call later =>
    call.1 = .finalize → later.2.id ≠ call.2.id
  /-- Nobody is called after its deregistration. -/
  removed : ∀ earlier record later, records = earlier ++ record :: later →
    ∀ id ∈ earlier.flatMap ChainRecord.given, record.Deregisters id →
      ∀ call ∈ later.flatMap ChainRecord.calls, call.2.id ≠ id
  /-- A finalization calls the enabled handlers, each once and in order, empties the chain, and
  counts those that nobody asked to remove meanwhile. -/
  finished : ∀ record ∈ records, record.operation = .finishAll →
    record.calls = (record.before.entries.filter Entry.enabled).map
      (fun entry => (.finalize, ⟨entry.id, own, record.before.bound⟩)) ∧
    record.after.entries = [] ∧
    record.returned = .finished ((record.before.entries.filter Entry.enabled).filter
      fun entry => .deregister entry.id ∉ changesIn record.notes).length
  /-- A second finalization finds nobody, if nobody was registered in between. -/
  again : ∀ earlier first between second later,
    records = earlier ++ first :: (between ++ second :: later) →
    first.operation = .finishAll → second.operation = .finishAll →
    (∀ record ∈ between, record.given = []) →
      second.calls = [] ∧ second.returned = .finished 0

theorem Chained.lawful {own : EndpointId} {chain : Chain σ} {records : List (ChainRecord σ)}
    (chained : Chained own chain records) (before : chain.Numbered) : Lawful own records where
  numbered record mem := (chained.numbered before record mem).2
  distinct := chained.nodup_given.1
  silent := chained.silent before
  removed := by
    rintro earlier record later rfl id given removed
    obtain ⟨regular, rest, _⟩ := chained.at_record
    exact rest.uncalled (regular.gone_of_deregisters (chained.given_below id given) removed)
  finished record mem ends := by
    obtain ⟨earlier, later, rfl⟩ := List.append_of_mem mem
    obtain ⟨called, empty, count⟩ := chained.at_record.1.finished ends
    exact ⟨called, empty, count (chained.numbered before record mem).1.nodup⟩
  again := by
    rintro earlier first between second later rfl ends endsAgain nobody
    obtain ⟨regular, rest, _⟩ := chained.at_record
    obtain ⟨called, _, count⟩ := rest.at_record.1.finished endsAgain
    have emptied : first.after.ids = [] := by
      rw [ids, (regular.finished ends).2.1]
      rfl
    have nobodyLeft := rest.ids_eq_nil emptied nobody
    have entries : second.before.entries = [] := List.map_eq_nil_iff.mp nobodyLeft
    rw [nobodyLeft] at count
    rw [called, count List.nodup_nil, entries]
    exact ⟨rfl, rfl⟩

/-- Whatever is done with a new chain, and whatever its handlers and the surroundings do, the
numbers ascend and are given once, and no handler is called after it was finalized or taken out. -/
theorem Chain.lifecycle {state : Type} (B : Behaviour ω σ) (own : EndpointId)
    (perform : Program.Performer (busSignature ω) state) (operations : List (ChainOperation σ))
    (s : state) : Lawful own (history B own perform operations {} s) :=
  (chained_history B own perform operations {} s).lawful ⟨.nil, nofun⟩

end AgentBus
