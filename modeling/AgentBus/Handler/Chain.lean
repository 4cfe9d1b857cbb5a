import AgentBus.Handler.Basic

/-!
# Handler chains

A chain holds the handlers of one endpoint in the order of their registration. While callbacks run
the chain is frozen: `startAll`, `offer` and `finishAll` call the handlers that were enabled at the
start, each once and in order, and apply the changes that were asked for when the last one is done.

These three are programs for the bus. Run at one go they are a pass over the chain that nobody
interrupts; taken one request at a time, other threads run between the requests.
-/

namespace AgentBus

/-- A handler in a chain. -/
structure Entry (σ : Type) where
  id : HandlerId
  enabled : Bool
  handler : σ
  deriving DecidableEq

/-- The handlers of one endpoint. -/
structure Chain (σ : Type) where
  entries : List (Entry σ) := []
  /-- Whether the shared context was bound to the chain. -/
  bound : Bool := false
  /-- The number of the next handler. -/
  nextId : Nat := 1
  deriving DecidableEq

namespace Chain

variable {ω σ : Type}

/-! ## Registration -/

/-- Appends an enabled handler. -/
def register (chain : Chain σ) (handler : σ) : HandlerId × Chain σ :=
  (⟨chain.nextId⟩,
    { chain with
      entries := chain.entries ++ [⟨⟨chain.nextId⟩, true, handler⟩]
      nextId := chain.nextId + 1 })

/-- The entry with a number. -/
def entry? (chain : Chain σ) (id : HandlerId) : Option (Entry σ) :=
  chain.entries.find? fun entry => entry.id = id

/-- Removes a handler. -/
def deregister (chain : Chain σ) (id : HandlerId) : Chain σ :=
  { chain with entries := chain.entries.filter fun entry => entry.id ≠ id }

/-- Enables or disables a handler. -/
def setEnabled (chain : Chain σ) (id : HandlerId) (enabled : Bool) : Chain σ :=
  { chain with
    entries := chain.entries.map fun entry =>
      if entry.id = id then { entry with enabled } else entry }

def contains (chain : Chain σ) (id : HandlerId) : Bool :=
  (chain.entry? id).isSome

def size (chain : Chain σ) : Nat :=
  chain.entries.length

/-- The names of the handlers, in order. -/
def names (B : Behaviour ω σ) (chain : Chain σ) : List String :=
  chain.entries.map fun entry => B.name entry.handler

/-! ## Changes asked for by handlers -/

def applyChange (chain : Chain σ) : ChainChange → Chain σ
  | .deregister id => chain.deregister id
  | .setEnabled id enabled => chain.setEnabled id enabled

/-- Applies changes in the order in which they were asked for. -/
def amend (chain : Chain σ) (changes : List ChainChange) : Chain σ :=
  changes.foldl applyChange chain

/-- The place of an entry's callbacks. -/
def scope (own : EndpointId) (bound : Bool) (entry : Entry σ) : Scope :=
  ⟨entry.id, own, bound⟩

/-! ## Initialization -/

/-- Runs `init` on the enabled handlers of a list. One that is not ready is disabled. -/
def startEntries (B : Behaviour ω σ) (own : EndpointId) (bound : Bool) :
    List (Entry σ) → List ChainChange → BusProgram ω (List (Entry σ) × List ChainChange)
  | [], changes => .done ([], changes)
  | entry :: rest, changes =>
    if entry.enabled then
      (collect (B.init (scope own bound entry) entry.handler) changes).bind fun started =>
        (startEntries B own bound rest started.2).bind fun others =>
          .done
            ({ entry with enabled := started.1.ready, handler := started.1.handler } :: others.1,
              others.2)
    else
      (startEntries B own bound rest changes).bind fun others =>
        .done (entry :: others.1, others.2)

/-- Binds the shared context or not, runs `init` on every enabled handler, and then applies the
changes asked for. -/
def startAll (B : Behaviour ω σ) (own : EndpointId) (bound : Bool) (chain : Chain σ) :
    BusProgram ω (Chain σ) :=
  (startEntries B own bound chain.entries []).bind fun started =>
    .done (({ chain with entries := started.1, bound }).amend started.2)

/-! ## Dispatch -/

/-- Sends an answer back along the reverse of a message's route: to the message's source, if that
is still alive, from its destination, or from the own endpoint if that is gone. -/
def returnAnswer (own : EndpointId) (message answer : Message) : BusProgram ω Unit :=
  match message.route with
  | none => .done ()
  | some route =>
    (BusProgram.look route.source).bind fun requester =>
      if requester.isSome then
        (BusProgram.look route.destination).bind fun responder =>
          (BusProgram.send answer (if responder.isSome then route.destination else own)
            route.source).bind fun _ => .done ()
      else .done ()

/-- Sends the answer of a handler back, if it has one. -/
def returnHandled (own : EndpointId) (handled : Handled σ) : BusProgram ω Unit :=
  match handled.answer with
  | none => .done ()
  | some answer => returnAnswer own handled.message answer

/-- What a pass over the handlers of a list leaves: the entries, the changes asked for, and how
many handlers were called. -/
structure Offered (σ : Type) where
  entries : List (Entry σ)
  changes : List ChainChange
  called : Nat

/-- Offers a message to the enabled handlers of a list. Each sees the message as the one before it
left it, and its answer is sent as soon as it returns. -/
def offerEntries (B : Behaviour ω σ) (own : EndpointId) (bound : Bool) :
    List (Entry σ) → Message → List ChainChange → BusProgram ω (Offered σ)
  | [], _, changes => .done ⟨[], changes, 0⟩
  | entry :: rest, message, changes =>
    if entry.enabled then
      (collect (B.handle (scope own bound entry) entry.handler message) changes).bind
        fun handled =>
          (returnHandled own handled.1).bind fun _ =>
            (offerEntries B own bound rest handled.1.message handled.2).bind fun others =>
              .done ⟨{ entry with handler := handled.1.handler } :: others.entries,
                others.changes, others.called + 1⟩
    else
      (offerEntries B own bound rest message changes).bind fun others =>
        .done { others with entries := entry :: others.entries }

/-- Offers a message to every enabled handler in order, and then applies the changes asked for.
Returns how many handlers were called. -/
def offer (B : Behaviour ω σ) (own : EndpointId) (chain : Chain σ) (message : Message) :
    BusProgram ω (Nat × Chain σ) :=
  (offerEntries B own chain.bound chain.entries message []).bind fun offered =>
    .done (offered.called, ({ chain with entries := offered.entries }).amend offered.changes)

/-! ## Finalization -/

/-- Runs `finalize` on the enabled handlers of a list; disabled ones are only taken out. -/
def finishEntries (B : Behaviour ω σ) (own : EndpointId) (bound : Bool) :
    List (Entry σ) → List ChainChange → BusProgram ω (List (Entry σ) × List ChainChange)
  | [], changes => .done ([], changes)
  | entry :: rest, changes =>
    if entry.enabled then
      (collect (B.finalize (scope own bound entry) entry.handler) changes).bind fun finished =>
        (finishEntries B own bound rest finished.2).bind fun others =>
          .done ({ entry with handler := finished.1 } :: others.1, others.2)
    else
      (finishEntries B own bound rest (changes ++ [.deregister entry.id])).bind fun others =>
        .done (entry :: others.1, others.2)

/-- Runs `finalize` on every enabled handler and releases the chain. Returns how many handlers were
still in it when the changes asked for had been applied. -/
def finishAll (B : Behaviour ω σ) (own : EndpointId) (chain : Chain σ) :
    BusProgram ω (Nat × Chain σ) :=
  (finishEntries B own chain.bound chain.entries []).bind fun finished =>
    let left := ({ chain with entries := finished.1 }).amend finished.2
    .done (left.size, { left with entries := [] })

end Chain

end AgentBus
