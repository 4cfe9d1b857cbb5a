import AgentBus.Proofs.Handler.Calls

/-!
# A dispatch sees a frozen chain

Handlers change the chain that is calling them, but not before the pass over it is done. So a
dispatch calls the handlers that were enabled when it began, and what is left of the chain depends
on the changes asked for, not on who asked (`offer_frozen`).

`entries_amend` says what a list of changes makes of a chain, whatever the order in which removals
and switches on the same handlers come.
-/

namespace AgentBus

variable {ω σ : Type}

/-! ## Changes -/

def ChainChange.flagFor? (id : HandlerId) : ChainChange → Option Bool
  | .deregister _ => none
  | .setEnabled other enabled => if other = id then some enabled else none

/-- How a handler was switched last. -/
def lastFlag? (id : HandlerId) (changes : List ChainChange) : Option Bool :=
  (changes.filterMap (ChainChange.flagFor? id)).getLast?

def Entry.amended (changes : List ChainChange) (entry : Entry σ) : Entry σ :=
  { entry with enabled := (lastFlag? entry.id changes).getD entry.enabled }

@[simp] theorem Entry.id_amended (changes : List ChainChange) (entry : Entry σ) :
    (entry.amended changes).id = entry.id :=
  rfl

theorem lastFlag?_deregister (id other : HandlerId) (changes : List ChainChange) :
    lastFlag? id (.deregister other :: changes) = lastFlag? id changes := by
  simp [lastFlag?, ChainChange.flagFor?]

theorem lastFlag?_setEnabled (id other : HandlerId) (enabled : Bool)
    (changes : List ChainChange) :
    lastFlag? id (.setEnabled other enabled :: changes) =
      if other = id then some ((lastFlag? id changes).getD enabled) else lastFlag? id changes := by
  by_cases same : other = id
  · simp [lastFlag?, ChainChange.flagFor?, same, List.getLast?_cons]
  · simp [lastFlag?, ChainChange.flagFor?, same]

namespace Chain

theorem amend_cons (chain : Chain σ) (change : ChainChange) (changes : List ChainChange) :
    chain.amend (change :: changes) = (chain.applyChange change).amend changes :=
  rfl

/-- The survivors are those that no change removes, each switched as it was switched last. -/
theorem entries_amend (chain : Chain σ) (changes : List ChainChange) :
    (chain.amend changes).entries =
      (chain.entries.filter fun entry => .deregister entry.id ∉ changes).map
        (Entry.amended changes) := by
  induction changes generalizing chain with
  | nil =>
    have unchanged : (Entry.amended [] : Entry σ → Entry σ) = id := rfl
    rw [unchanged, List.map_id, List.filter_eq_self.mpr (by simp)]
    rfl
  | cons change changes ih =>
    rw [amend_cons, ih]
    cases change with
    | deregister id =>
      have same : Entry.amended (σ := σ) (.deregister id :: changes) = Entry.amended changes := by
        funext entry
        simp only [Entry.amended, lastFlag?_deregister]
      rw [same, applyChange, deregister, List.filter_filter]
      congr 2
      funext entry
      simp [Bool.and_comm]
    | setEnabled id enabled =>
      -- Switching a handler commutes with removals, since it keeps the number
      have switched : ∀ entry : Entry σ,
          (if entry.id = id then { entry with enabled } else entry).amended changes =
            entry.amended (.setEnabled id enabled :: changes) := by
        intro entry
        by_cases same : entry.id = id
        · simp [Entry.amended, same, lastFlag?_setEnabled]
        · simp [Entry.amended, same, Ne.symm same, lastFlag?_setEnabled]
      have kept : ∀ entry : Entry σ,
          (if entry.id = id then { entry with enabled } else entry).id = entry.id := by
        intro entry
        split <;> rfl
      simp only [applyChange, setEnabled, List.filter_map, List.map_map, Function.comp_def, kept,
        switched]
      simp

@[simp] theorem nextId_amend (chain : Chain σ) (changes : List ChainChange) :
    (chain.amend changes).nextId = chain.nextId := by
  induction changes generalizing chain with
  | nil => rfl
  | cons change changes ih =>
    rw [amend_cons, ih]
    cases change <;> rfl

/-- The numbers of the handlers, in order. -/
def ids (chain : Chain σ) : List HandlerId :=
  chain.entries.map Entry.id

theorem ids_amend (chain : Chain σ) (changes : List ChainChange) :
    (chain.amend changes).ids = chain.ids.filter fun id => .deregister id ∉ changes := by
  simp [ids, entries_amend, List.filter_map, Function.comp_def]

/-- What a list of changes leaves of handlers, of which the numbers and the switches are given. -/
def survivors (changes : List ChainChange) (labels : List (HandlerId × Bool)) :
    List (HandlerId × Bool) :=
  (labels.filter fun label => .deregister label.1 ∉ changes).map fun label =>
    (label.1, (lastFlag? label.1 changes).getD label.2)

theorem survivors_labels (changes : List ChainChange) (entries : List (Entry σ)) :
    survivors changes (entries.map Entry.label) =
      (entries.filter fun entry => .deregister entry.id ∉ changes).map fun entry =>
        (entry.id, (lastFlag? entry.id changes).getD entry.enabled) := by
  rw [survivors, List.filter_map, List.map_map]
  rfl

theorem map_label_amend (chain : Chain σ) (changes : List ChainChange) :
    (chain.amend changes).entries.map Entry.label =
      survivors changes (chain.entries.map Entry.label) := by
  rw [entries_amend, List.map_map, survivors_labels]
  rfl

/-! ## A dispatch -/

theorem annotates_offer (B : Behaviour ω σ) (own : EndpointId) (chain : Chain σ)
    (message : Message) :
    Annotates (chain.offer B own message) (chain.offer B.noting own message)
      fun offered notes =>
        callsIn notes = callsFor .handle own chain.bound chain.entries ∧
        offered.1 = (enabledOf chain.entries).length ∧
        offered.2.entries.map Entry.label =
          survivors (changesIn notes) (chain.entries.map Entry.label) ∧
        offered.2.nextId = chain.nextId := by
  apply (annotates_offerEntries B own chain.bound chain.entries message []).bind
  rintro offered notes ⟨called, asked, count, labels⟩
  rw [List.nil_append] at asked
  refine .done ?_
  simp only [List.append_nil, asked, map_label_amend, nextId_amend, labels]
  exact ⟨called, count, trivial, trivial⟩

/-- A dispatch calls the handlers that were enabled when it began, each once and in order, and
returns how many these were, whatever the handlers do and whatever goes on around them. The handlers
left are those that nobody asked to remove, in their order, each as it was switched last. -/
theorem offer_frozen {state : Type} (B : Behaviour ω σ) (own : EndpointId) (chain : Chain σ)
    (message : Message) (perform : Program.Performer (busSignature ω) state) (s : state) :
    ∃ notes,
      (chain.offer B.noting own message).run (noteTaker perform) (s, []) =
        (((chain.offer B own message).run perform s).1,
          ((chain.offer B own message).run perform s).2, notes) ∧
      callsIn notes =
        (chain.entries.filter Entry.enabled).map
          (fun entry => (.handle, ⟨entry.id, own, chain.bound⟩)) ∧
      ((chain.offer B own message).run perform s).1.1 =
        (chain.entries.filter Entry.enabled).length ∧
      ((chain.offer B own message).run perform s).1.2.entries.map
          (fun entry => (entry.id, entry.enabled)) =
        (chain.entries.filter fun entry => .deregister entry.id ∉ changesIn notes).map
          fun entry => (entry.id, (lastFlag? entry.id (changesIn notes)).getD entry.enabled) := by
  obtain ⟨notes, ran, called, count, labels, _⟩ :=
    (annotates_offer B own chain message).run perform s []
  rw [survivors_labels] at labels
  exact ⟨notes, ran, called, count, labels⟩

end Chain

end AgentBus
