import AgentBus.Handler.Chain
import AgentBus.Proofs.Program.Notes

/-!
# What a pass over a chain asks for

Which requests a handler makes may depend on the endpoint it stands on. If the callbacks of a
behaviour make only requests of some kind, so do the passes that are put together from them
(`Behaviour.Makes`), as long as messages may be sent and endpoints looked at: a pass does that by
itself to return answers.
-/

namespace AgentBus

variable {ω σ : Type}

/-! ## Callbacks -/

/-- Changes of the chain may always be asked for. -/
def HandlerProgram.Allowed (allowed : BusRequest ω → Prop) :
    (handlerSignature ω).Request → Prop
  | .inl request => allowed request
  | .inr _ => True

theorem HandlerProgram.every_collect {α : Type} {allowed : BusRequest ω → Prop}
    {program : HandlerProgram ω α} (every : program.Every (Allowed allowed) fun _ => True)
    (changes : List ChainChange) : (collect program changes).Every allowed fun _ => True := by
  induction program generalizing changes with
  | done result => trivial
  | ask request next ih =>
    cases request with
    | inl request => exact ⟨every.1, fun response => ih response (every.2 response) changes⟩
    | inr change => exact ih () (every.2 ()) (changes ++ [change])

theorem HandlerProgram.every_left {α : Type} {allowed : BusRequest ω → Prop} {fine : α → Prop}
    {program : BusProgram ω α} (every : program.Every allowed fine) :
    Program.Every (Allowed allowed) fine (program.left : HandlerProgram ω α) := by
  induction program with
  | done result => exact every
  | ask request next ih => exact ⟨every.1, fun response => ih response (every.2 response)⟩

/-- The callbacks make only requests that are allowed on the endpoint they stand on. -/
structure Behaviour.Makes (allowed : EndpointId → BusRequest ω → Prop) (B : Behaviour ω σ) :
    Prop where
  init : ∀ scope handler,
    (B.init scope handler).Every (HandlerProgram.Allowed (allowed scope.endpoint)) fun _ => True
  handle : ∀ scope handler message,
    (B.handle scope handler message).Every (HandlerProgram.Allowed (allowed scope.endpoint))
      fun _ => True
  finalize : ∀ scope handler,
    (B.finalize scope handler).Every (HandlerProgram.Allowed (allowed scope.endpoint)) fun _ => True

theorem Behaviour.makes_anything (B : Behaviour ω σ) : B.Makes fun _ _ => True := by
  have all (request : (handlerSignature ω).Request) :
      HandlerProgram.Allowed (fun _ => True) request := by
    cases request <;> trivial
  exact ⟨fun _ _ => Program.every_of_all all (fun _ => trivial) _,
    fun _ _ _ => Program.every_of_all all (fun _ => trivial) _,
    fun _ _ => Program.every_of_all all (fun _ => trivial) _⟩

theorem Behaviour.makes_handling {allowed : EndpointId → BusRequest ω → Prop} (name : σ → String)
    {handle : Scope → σ → Message → HandlerProgram ω (Handled σ)}
    (handles : ∀ scope handler message,
      (handle scope handler message).Every (HandlerProgram.Allowed (allowed scope.endpoint))
        fun _ => True) :
    (Behaviour.handling name handle).Makes allowed where
  init _ _ := trivial
  handle := handles
  finalize _ _ := ⟨trivial, fun _ => trivial⟩

/-! ## Passes -/

/-- What a pass asks for by itself. -/
structure BusRequest.Common (allowed : BusRequest ω → Prop) : Prop where
  look : ∀ endpoint, allowed (.look endpoint)
  send : ∀ message source destination, allowed (.send message source destination)

theorem BusRequest.common_anything : BusRequest.Common (fun _ : BusRequest ω => True) :=
  ⟨fun _ => trivial, fun _ _ _ => trivial⟩

namespace Chain

section Answers

variable {allowed : BusRequest ω → Prop} (common : BusRequest.Common allowed)
include common

theorem every_returnAnswer (own : EndpointId) (message answer : Message) :
    (returnAnswer own message answer : BusProgram ω Unit).Every allowed fun _ => True := by
  unfold returnAnswer
  cases message.route with
  | none => trivial
  | some route =>
    refine ⟨common.look _, fun requester => ?_⟩
    dsimp only [Program.bind]
    split
    · exact ⟨common.look _, fun _ => ⟨common.send _ _ _, fun _ => trivial⟩⟩
    · trivial

theorem every_returnHandled (own : EndpointId) (handled : Handled σ) :
    (returnHandled own handled : BusProgram ω Unit).Every allowed fun _ => True := by
  unfold returnHandled
  cases handled.answer with
  | none => trivial
  | some answer => exact every_returnAnswer common own handled.message answer

end Answers

section Passes

variable {allowed : EndpointId → BusRequest ω → Prop} {B : Behaviour ω σ} (makes : B.Makes allowed)
variable (own : EndpointId)
include makes

theorem every_startEntries (bound : Bool) (entries : List (Entry σ)) (changes : List ChainChange) :
    (startEntries B own bound entries changes).Every (allowed own) fun _ => True := by
  induction entries generalizing changes with
  | nil => trivial
  | cons entry rest ih =>
    unfold startEntries
    split
    · apply (HandlerProgram.every_collect (makes.init (scope own bound entry) _) changes).bind
      intro started _
      exact (ih started.2).bind fun _ _ => trivial
    · exact (ih changes).bind fun _ _ => trivial

theorem every_offerEntries (common : BusRequest.Common (allowed own)) (bound : Bool)
    (entries : List (Entry σ)) (message : Message) (changes : List ChainChange) :
    (offerEntries B own bound entries message changes).Every (allowed own) fun _ => True := by
  induction entries generalizing message changes with
  | nil => trivial
  | cons entry rest ih =>
    unfold offerEntries
    split
    · apply (HandlerProgram.every_collect (makes.handle (scope own bound entry) _ _) changes).bind
      intro handled _
      apply (every_returnHandled common own handled.1).bind
      intro _ _
      exact (ih _ _).bind fun _ _ => trivial
    · exact (ih message changes).bind fun _ _ => trivial

theorem every_finishEntries (bound : Bool) (entries : List (Entry σ))
    (changes : List ChainChange) :
    (finishEntries B own bound entries changes).Every (allowed own) fun _ => True := by
  induction entries generalizing changes with
  | nil => trivial
  | cons entry rest ih =>
    unfold finishEntries
    split
    · apply (HandlerProgram.every_collect (makes.finalize (scope own bound entry) _) changes).bind
      intro finished _
      exact (ih finished.2).bind fun _ _ => trivial
    · exact (ih _).bind fun _ _ => trivial

theorem every_startAll (bound : Bool) (chain : Chain σ) :
    (chain.startAll B own bound).Every (allowed own) fun _ => True :=
  (every_startEntries makes own bound chain.entries []).bind fun _ _ => trivial

theorem every_offer (common : BusRequest.Common (allowed own)) (chain : Chain σ)
    (message : Message) : (chain.offer B own message).Every (allowed own) fun _ => True :=
  (every_offerEntries makes own common chain.bound chain.entries message []).bind fun _ _ => trivial

theorem every_finishAll (chain : Chain σ) :
    (chain.finishAll B own).Every (allowed own) fun _ => True :=
  (every_finishEntries makes own chain.bound chain.entries []).bind fun _ _ => trivial

end Passes

end Chain

end AgentBus
