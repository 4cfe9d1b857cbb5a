import AgentBus.Core.Handlers
import AgentBus.Proofs.Handler.Requests

/-!
# What the handlers of the core ask for

The handlers of the core send messages, look at endpoints and at the shared context, and request a
shutdown. They never change the directory, and they write nothing to the outside.
-/

namespace AgentBus

variable {ω : Type}

/-- A request that neither changes the directory nor writes anything to the outside. -/
def BusRequest.Plain : BusRequest ω → Prop
  | .change (.publish _ _) => False
  | .change (.withdraw _) => False
  | .change (.bind _ _) => False
  | .emit _ => False
  | _ => True

theorem BusRequest.common_plain : BusRequest.Common (BusRequest.Plain (ω := ω)) :=
  ⟨fun _ => trivial, fun _ _ _ => trivial⟩

namespace CoreHandler

/-- A program that makes plain requests only. -/
abbrev Plainly {α : Type} (program : BusProgram ω α) : Prop :=
  program.Every BusRequest.Plain fun _ => True

theorem plainly_context? (scope : Scope) : Plainly (context? scope : BusProgram ω _) := by
  unfold context?
  split
  · exact ⟨trivial, fun _ => trivial⟩
  · trivial

theorem plainly_requester (scope : Scope) (message : Message) :
    Plainly (requester scope message : BusProgram ω _) := by
  unfold requester
  split
  · trivial
  · exact ⟨trivial, fun _ => trivial⟩

theorem plainly_receive (scope : Scope) (message : Message) (payload : TextPayload) :
    Plainly (receive scope message payload : BusProgram ω _) := by
  apply (plainly_context? scope).bind
  intro context _
  dsimp only
  split
  · trivial
  · exact (plainly_requester scope message).bind fun _ _ => ⟨trivial, fun _ => trivial⟩

theorem plainly_quit (scope : Scope) (command : Command) :
    Plainly (quit scope command : BusProgram ω _) := by
  unfold quit
  split
  · exact ⟨trivial, fun _ => trivial⟩
  · trivial

theorem plainly_execute (scope : Scope) (command : Command) :
    Plainly (execute scope command : BusProgram ω _) :=
  (plainly_context? scope).bind fun _ _ => (plainly_quit scope command).bind fun _ _ => trivial

theorem plainly_fanOut (own : EndpointId) (text : String) (channels : NameTable EndpointId) :
    Plainly (fanOut own text channels : BusProgram ω _) := by
  induction channels with
  | nil => trivial
  | cons channel rest ih => exact ⟨trivial, fun _ => ih⟩

theorem plainly_route (own : EndpointId) (context : Context) (payload : Payload) :
    Plainly (route own context payload : BusProgram ω _) := by
  unfold route
  split
  · exact plainly_fanOut own _ _
  · split
    · trivial
    · exact ⟨trivial, fun _ => trivial⟩
  · trivial

theorem plainly_handle (scope : Scope) (handler : CoreHandler) (message : Message) :
    Plainly (handle scope handler message : BusProgram ω _) := by
  unfold handle
  split
  · exact (plainly_receive scope message _).bind fun _ _ => trivial
  · exact (plainly_execute scope _).bind fun _ _ => trivial
  · apply (plainly_context? scope).bind
    intro context _
    split
    · trivial
    · exact (plainly_route scope.endpoint _ _).bind fun _ _ => trivial
  · trivial

theorem makes_behaviour : (behaviour : Behaviour ω CoreHandler).Makes fun _ => BusRequest.Plain :=
  Behaviour.makes_handling name fun scope handler message =>
    HandlerProgram.every_left (plainly_handle scope handler message)

end CoreHandler

end AgentBus
