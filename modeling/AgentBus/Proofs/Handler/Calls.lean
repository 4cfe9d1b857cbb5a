import AgentBus.Handler.Chain
import AgentBus.Proofs.Program.Notes

/-!
# The calls of a pass

`Behaviour.noting` gives every handler a notebook: each callback is noted when it begins, and each
change of the chain when it is asked for. A chain that runs with it shows what it calls. The three
passes over a chain each have one lemma here (`annotates_startEntries`, `annotates_offerEntries`,
`annotates_finishEntries`): they call the enabled handlers, each once and in order, and they keep
the changes asked for in their order.
-/

namespace AgentBus

variable {ω σ α : Type}

/-! ## Notes of a chain -/

inductive ChainNote where
  | called (callback : Callback) (scope : Scope)
  | asked (change : ChainChange)
  deriving DecidableEq

namespace ChainNote

@[simp] def call? : ChainNote → Option (Callback × Scope)
  | .called callback scope => some (callback, scope)
  | .asked _ => none

@[simp] def change? : ChainNote → Option ChainChange
  | .called _ _ => none
  | .asked change => some change

end ChainNote

/-- The callbacks that were called, in order, each with its place. -/
def callsIn (notes : List ChainNote) : List (Callback × Scope) :=
  notes.filterMap ChainNote.call?

/-- The changes that were asked for, in order. -/
def changesIn (notes : List ChainNote) : List ChainChange :=
  notes.filterMap ChainNote.change?

@[simp] theorem callsIn_nil : callsIn [] = [] := rfl

@[simp] theorem changesIn_nil : changesIn [] = [] := rfl

@[simp] theorem callsIn_append (before after : List ChainNote) :
    callsIn (before ++ after) = callsIn before ++ callsIn after :=
  List.filterMap_append

@[simp] theorem changesIn_append (before after : List ChainNote) :
    changesIn (before ++ after) = changesIn before ++ changesIn after :=
  List.filterMap_append

/-! ## Handlers with a notebook -/

/-- A request of a handler, where changes of the chain are noted. -/
def notedRequest : (request : (handlerSignature ω).Request) →
    HandlerProgram (ω ⊕ ChainNote) ((handlerSignature ω).Response request)
  | .inl request => (BusRequest.widened request).left
  | .inr change => (BusProgram.note (ChainNote.asked change)).left.bind fun _ => change.ask

def HandlerProgram.noting (program : HandlerProgram ω α) : HandlerProgram (ω ⊕ ChainNote) α :=
  Program.interpret notedRequest program

/-- A callback that notes its beginning. -/
def HandlerProgram.notingCall (callback : Callback) (scope : Scope)
    (program : HandlerProgram ω α) : HandlerProgram (ω ⊕ ChainNote) α :=
  (BusProgram.note (.called callback scope)).left.bind fun _ => HandlerProgram.noting program

/-- Handlers that do what others do, and note it. -/
def Behaviour.noting (B : Behaviour ω σ) : Behaviour (ω ⊕ ChainNote) σ where
  name := B.name
  init scope handler := HandlerProgram.notingCall .init scope (B.init scope handler)
  handle scope handler message :=
    HandlerProgram.notingCall .handle scope (B.handle scope handler message)
  finalize scope handler := HandlerProgram.notingCall .finalize scope (B.finalize scope handler)

theorem collect_left_bind {β : Type} (program : BusProgram ω α) (f : α → HandlerProgram ω β)
    (changes : List ChainChange) :
    collect (program.left.bind f) changes =
      program.bind fun result => collect (f result) changes := by
  induction program with
  | done result => rfl
  | ask request next ih =>
    simp only [Program.left, Program.bind, collect]
    congr
    funext response
    exact ih response

theorem collect_noting_request (request : BusRequest ω)
    (next : request.Response → HandlerProgram ω α) (changes : List ChainChange) :
    collect (HandlerProgram.noting (.ask (.inl request) next)) changes =
      request.widened.bind fun response =>
        collect (HandlerProgram.noting (next response)) changes :=
  collect_left_bind _ _ _

/-- A callback's changes are appended to the earlier ones, as it notes them. -/
theorem annotates_collect (program : HandlerProgram ω α) (changes : List ChainChange) :
    Annotates (collect program changes) (collect (HandlerProgram.noting program) changes)
      fun result notes => callsIn notes = [] ∧ result.2 = changes ++ changesIn notes := by
  induction program generalizing changes with
  | done result => exact .done (by simp)
  | ask request next ih =>
    cases request with
    | inl request =>
      exact collect_noting_request request next changes ▸
        .request request fun response => ih response changes
    | inr change =>
      -- The plain callback passes the change on without a request to the bus
      apply Annotates.note
      apply (ih () (changes ++ [change])).imp
      rintro result notes ⟨silent, asked⟩
      exact ⟨silent, asked.trans (List.append_assoc _ _ _)⟩

theorem annotates_notingCall (callback : Callback) (scope : Scope)
    (program : HandlerProgram ω α) (changes : List ChainChange) :
    Annotates (collect program changes)
      (collect (HandlerProgram.notingCall callback scope program) changes)
      fun result notes =>
        callsIn notes = [(callback, scope)] ∧ result.2 = changes ++ changesIn notes := by
  apply Annotates.note
  apply (annotates_collect program changes).imp
  rintro result notes ⟨silent, asked⟩
  exact ⟨congrArg ((callback, scope) :: ·) silent, asked⟩

/-! ## Answers -/

theorem annotates_returnAnswer {ν : Type} (own : EndpointId) (message answer : Message) :
    Annotates (ω := ω) (Chain.returnAnswer own message answer)
      (Chain.returnAnswer own message answer) fun _ (notes : List ν) => notes = [] := by
  unfold Chain.returnAnswer
  cases message.route with
  | none => exact .done rfl
  | some route =>
    apply Annotates.request (.look route.source)
    intro requester
    split
    · apply Annotates.request (.look route.destination)
      intro responder
      apply Annotates.request (.send answer _ route.source)
      intro delivery
      exact .done rfl
    · exact .done rfl

theorem annotates_returnHandled {ν : Type} (own : EndpointId) (handled : Handled σ) :
    Annotates (ω := ω) (Chain.returnHandled own handled) (Chain.returnHandled own handled)
      fun _ (notes : List ν) => notes = [] := by
  unfold Chain.returnHandled
  cases handled.answer with
  | none => exact .done rfl
  | some answer => exact annotates_returnAnswer own handled.message answer

/-! ## Passes -/

def enabledOf (entries : List (Entry σ)) : List (Entry σ) :=
  entries.filter Entry.enabled

/-- The calls of a pass: one for each enabled handler, in order. -/
def callsFor (callback : Callback) (own : EndpointId) (bound : Bool) (entries : List (Entry σ)) :
    List (Callback × Scope) :=
  (enabledOf entries).map fun entry => (callback, Chain.scope own bound entry)

/-- What everybody can see of an entry, which no callback changes. -/
def Entry.label (entry : Entry σ) : HandlerId × Bool :=
  (entry.id, entry.enabled)

section Passes

variable (B : Behaviour ω σ) (own : EndpointId) (bound : Bool)

theorem annotates_startEntries (entries : List (Entry σ)) (changes : List ChainChange) :
    Annotates (Chain.startEntries B own bound entries changes)
      (Chain.startEntries B.noting own bound entries changes)
      fun started notes =>
        callsIn notes = callsFor .init own bound entries ∧
        started.2 = changes ++ changesIn notes ∧
        started.1.map Entry.id = entries.map Entry.id := by
  induction entries generalizing changes with
  | nil => exact .done (by simp [callsFor, enabledOf])
  | cons entry rest ih =>
    unfold Chain.startEntries
    cases enabled : entry.enabled with
    | true =>
      apply (annotates_notingCall .init _ _ _).bind
      rintro started before ⟨called, asked⟩
      apply (ih started.2).bind
      rintro others after ⟨calledLater, askedLater, ids⟩
      exact .done
        (by simp [callsFor, enabledOf, enabled, called, calledLater, asked, askedLater, ids])
    | false =>
      apply (ih changes).bind
      rintro others after ⟨calledLater, askedLater, ids⟩
      exact .done (by simp [callsFor, enabledOf, enabled, calledLater, askedLater, ids])

theorem annotates_offerEntries (entries : List (Entry σ)) (message : Message)
    (changes : List ChainChange) :
    Annotates (Chain.offerEntries B own bound entries message changes)
      (Chain.offerEntries B.noting own bound entries message changes)
      fun offered notes =>
        callsIn notes = callsFor .handle own bound entries ∧
        offered.changes = changes ++ changesIn notes ∧
        offered.called = (enabledOf entries).length ∧
        offered.entries.map Entry.label = entries.map Entry.label := by
  induction entries generalizing message changes with
  | nil => exact .done (by simp [callsFor, enabledOf])
  | cons entry rest ih =>
    unfold Chain.offerEntries
    cases enabled : entry.enabled with
    | true =>
      apply (annotates_notingCall .handle _ _ _).bind
      rintro handled before ⟨called, asked⟩
      apply (annotates_returnHandled own handled.1).bind
      rintro - between rfl
      apply (ih handled.1.message handled.2).bind
      rintro others after ⟨calledLater, askedLater, count, labels⟩
      refine .done ?_
      simp [callsFor, enabledOf, enabled, called, calledLater, asked, askedLater, count, labels,
        Entry.label]
    | false =>
      apply (ih message changes).bind
      rintro others after ⟨calledLater, askedLater, count, labels⟩
      refine .done ?_
      simp [callsFor, enabledOf, enabled, calledLater, askedLater, count, labels, Entry.label]

/-- Here the releases of disabled handlers come among the changes that are asked for. -/
theorem annotates_finishEntries (entries : List (Entry σ)) (changes : List ChainChange) :
    Annotates (Chain.finishEntries B own bound entries changes)
      (Chain.finishEntries B.noting own bound entries changes)
      fun finished notes =>
        callsIn notes = callsFor .finalize own bound entries ∧
        (∀ id, .deregister id ∈ finished.2 ↔
          .deregister id ∈ changes ∨ .deregister id ∈ changesIn notes ∨
            (id, false) ∈ entries.map Entry.label) ∧
        finished.1.map Entry.label = entries.map Entry.label := by
  induction entries generalizing changes with
  | nil => exact .done (by simp [callsFor, enabledOf])
  | cons entry rest ih =>
    unfold Chain.finishEntries
    cases enabled : entry.enabled with
    | true =>
      apply (annotates_notingCall .finalize _ _ _).bind
      rintro finished before ⟨called, asked⟩
      apply (ih finished.2).bind
      rintro others after ⟨calledLater, released, labels⟩
      refine .done ⟨?_, ?_, ?_⟩
      · simp [callsFor, enabledOf, enabled, called, calledLater]
      · intro id
        simp [released, asked, Entry.label, enabled, or_assoc]
      · simp [labels, Entry.label, enabled]
    | false =>
      -- A disabled handler is released without a call
      apply (ih (changes ++ [ChainChange.deregister entry.id])).bind
      rintro others after ⟨calledLater, released, labels⟩
      refine .done ⟨?_, ?_, ?_⟩
      · simp [callsFor, enabledOf, enabled, calledLater]
      · intro id
        simp [released, Entry.label, enabled, or_assoc, or_left_comm]
      · simp [labels]

end Passes

end AgentBus
