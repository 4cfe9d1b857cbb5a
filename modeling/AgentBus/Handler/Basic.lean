import AgentBus.Bus.Network

/-!
# Handlers

A handler is one unit of message processing on one endpoint. What handlers do is a `Behaviour`: a
name and three callbacks over a type of handler states, so that a chain can hold handlers of many
kinds as values of one type.

A callback can make every request to the bus, and can ask for changes of the chain it stands in.
Those are only collected while callbacks run: `collect` turns a callback into a program for the bus
that has the changes in its result.
-/

namespace AgentBus

/-- The number of a handler in its chain, from one upwards. -/
structure HandlerId where
  number : Nat
  deriving DecidableEq

def HandlerId.text (id : HandlerId) : String :=
  "#" ++ toString id.number

/-- A change of a chain that a callback asks for. -/
inductive ChainChange where
  | deregister (id : HandlerId)
  | setEnabled (id : HandlerId) (enabled : Bool)
  deriving DecidableEq

/-- The requests for changes of the chain. -/
abbrev chainSignature : Signature where
  Request := ChainChange
  Response := fun _ => Unit

/-- The requests of a handler. -/
def handlerSignature (ω : Type) : Signature :=
  (busSignature ω).sum chainSignature

/-- A program of a handler's callback. -/
abbrev HandlerProgram (ω α : Type) := Program (handlerSignature ω) α

/-- Asks for a change of the chain. -/
def ChainChange.ask {ω : Type} (change : ChainChange) : HandlerProgram ω Unit :=
  .requestRight change

/-- The place of a callback: the handler's number, the endpoint that owns the chain, and whether
the shared context was bound to the chain. -/
structure Scope where
  id : HandlerId
  endpoint : EndpointId
  bound : Bool
  deriving DecidableEq

/-- The callbacks of a handler. -/
inductive Callback where
  | init
  | handle
  | finalize
  deriving DecidableEq

def Callback.text : Callback → String
  | .init => "init"
  | .handle => "handle"
  | .finalize => "finalize"

/-- What an `init` callback leaves: the handler's state, and whether it is ready. -/
structure Started (σ : Type) where
  handler : σ
  ready : Bool

/-- What a `handle` callback leaves: the handler's state, the message as the next handler sees it,
and an answer to the message's sender. -/
structure Handled (σ : Type) where
  handler : σ
  message : Message
  answer : Option Message := none

/-- What handlers with states in `σ` do. -/
structure Behaviour (ω σ : Type) where
  name : σ → String
  init : Scope → σ → HandlerProgram ω (Started σ)
  handle : Scope → σ → Message → HandlerProgram ω (Handled σ)
  finalize : Scope → σ → HandlerProgram ω σ

namespace Behaviour

variable {ω σ τ : Type}

/-- A handler that is ready without doing anything. -/
def ready (handler : σ) : HandlerProgram ω (Started σ) :=
  .done ⟨handler, true⟩

/-- A handler that takes itself out of the chain at the end. -/
def leave (scope : Scope) (handler : σ) : HandlerProgram ω σ :=
  (ChainChange.deregister scope.id).ask.bind fun _ => .done handler

/-- A handler that only handles messages. -/
def handling (name : σ → String)
    (handle : Scope → σ → Message → HandlerProgram ω (Handled σ)) : Behaviour ω σ where
  name := name
  init := fun _ handler => ready handler
  handle := handle
  finalize := leave

/-- Handlers of either of two kinds. -/
def sum (A : Behaviour ω σ) (B : Behaviour ω τ) : Behaviour ω (σ ⊕ τ) where
  name
    | .inl handler => A.name handler
    | .inr handler => B.name handler
  init scope
    | .inl handler => (A.init scope handler).bind fun s => .done ⟨.inl s.handler, s.ready⟩
    | .inr handler => (B.init scope handler).bind fun s => .done ⟨.inr s.handler, s.ready⟩
  handle scope
    | .inl handler, message =>
      (A.handle scope handler message).bind fun h => .done ⟨.inl h.handler, h.message, h.answer⟩
    | .inr handler, message =>
      (B.handle scope handler message).bind fun h => .done ⟨.inr h.handler, h.message, h.answer⟩
  finalize scope
    | .inl handler => (A.finalize scope handler).bind fun s => .done (.inl s)
    | .inr handler => (B.finalize scope handler).bind fun s => .done (.inr s)

end Behaviour

/-- A callback as a program for the bus: its requests to the bus stay, and the changes of the chain
that it asks for are appended to those that were asked for before it. -/
def collect {ω α : Type} :
    HandlerProgram ω α → List ChainChange → BusProgram ω (α × List ChainChange)
  | .done result, changes => .done (result, changes)
  | .ask (.inl request) next, changes =>
    .ask request fun response => collect (next response) changes
  | .ask (.inr change) next, changes => collect (next ()) (changes ++ [change])

end AgentBus
