/-!
# Programs

A handler, a worker or a task is a `Program`: it asks its surroundings for something, goes on
depending on the response, and in the end has a result. What can be asked is a `Signature`. The
meaning of the requests is given where a program is run, so one program can be run at one go or one
request at a time between the requests of others.

Main statement: `run_preserves`, by which a run keeps whatever every request keeps.
-/

namespace AgentBus

/-- The requests of a kind of program, and the type of the response to each. -/
structure Signature where
  Request : Type
  Response : Request → Type

/-- The requests of two signatures together. -/
def Signature.sum (S T : Signature) : Signature where
  Request := S.Request ⊕ T.Request
  Response
    | .inl request => S.Response request
    | .inr request => T.Response request

/-- A program over a signature. -/
inductive Program (S : Signature) (α : Type) : Type where
  | done (result : α)
  | ask (request : S.Request) (next : S.Response request → Program S α)

namespace Program

variable {S T : Signature} {α β state : Type}

/-- Goes on with another program when the first is done. -/
def bind : Program S α → (α → Program S β) → Program S β
  | .done result, f => f result
  | .ask request next, f => .ask request fun response => (next response).bind f

instance : Monad (Program S) where
  pure := .done
  bind := bind

/-- A program as one that could ask more. -/
def left : Program S α → Program (S.sum T) α
  | .done result => .done result
  | .ask request next => .ask (.inl request) fun response => (next response).left

/-- Asks something of the second of two signatures. -/
def requestRight (request : T.Request) : Program (S.sum T) (T.Response request) :=
  .ask (.inr request) .done

/-- How requests act on a state. -/
abbrev Performer (S : Signature) (state : Type) : Type :=
  (request : S.Request) → state → S.Response request × state

/-- Runs a program at one go. -/
def run (perform : Performer S state) : Program S α → state → α × state
  | .done result, s => (result, s)
  | .ask request next, s =>
    let answered := perform request s
    (next answered.1).run perform answered.2

/-- A run keeps whatever every request keeps. -/
theorem run_preserves {perform : Performer S state} {P : state → Prop}
    (h : ∀ request s, P s → P (perform request s).2) (program : Program S α) :
    ∀ s, P s → P (program.run perform s).2 := by
  induction program with
  | done result => exact fun s hs => hs
  | ask request next ih => exact fun s hs => ih _ _ (h request s hs)

/-- Running two programs one after the other is running the first and then the second. -/
theorem run_bind {perform : Performer S state} (program : Program S α) (f : α → Program S β) :
    ∀ s, (program.bind f).run perform s =
      (f (program.run perform s).1).run perform (program.run perform s).2 := by
  induction program with
  | done result => exact fun s => rfl
  | ask request next ih => exact fun s => ih _ _

end Program

end AgentBus
