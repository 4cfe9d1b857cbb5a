import AgentBus.Mailbox.Basic

/-!
# Loops over a mailbox

A loop takes messages out of the queue and dispatches them. A serving loop goes on up to an exit
message, and no further once the endpoint is tearing down. A draining loop goes on until it found
the queue empty often enough in a row.

`Loop.step` is one step of a loop, between which other threads may run: it takes a message, begins
or ends a pass over the handlers, or performs one request of a pass. `Loop.run` takes such steps
without a pause. A handler can always send more messages, so a loop need not end by itself: `run`
has a bound on the number of steps.
-/

namespace AgentBus

/-- What a loop is for, and how far it has come. -/
inductive LoopMode where
  /-- Dispatches messages up to an exit message. -/
  | serving
  /-- Dispatches messages until the queue was empty `limit` times in a row. The last `idle` polls
  found it empty, and `taken` messages were taken out so far. -/
  | draining (limit idle taken : Nat)
  deriving DecidableEq

/-- What a loop is doing with a message. -/
inductive Work (ω σ : Type) where
  /-- Nothing: it looks for the next message. -/
  | free
  /-- It has taken a message out of the queue. -/
  | taken (message : Message)
  /-- It is offering a message to the handlers, and this is still to be done. -/
  | offering (message : Message) (pass : BusProgram ω (Nat × Chain σ))

/-- A loop between two steps. -/
structure Loop (ω σ : Type) where
  mode : LoopMode
  work : Work ω σ := .free

/-- How a loop ends. -/
inductive LoopEnd where
  /-- An exit message was handled. -/
  | exited
  /-- The endpoint is tearing down. -/
  | released
  /-- The queue stayed empty; so many messages were taken out of it. -/
  | drained (taken : Nat)
  deriving DecidableEq

/-- What a step of a loop leads to. -/
inductive LoopStep (ω σ : Type) where
  | working (loop : Loop ω σ) (site : Site ω σ)
  /-- The queue is empty, and the loop waits for more. -/
  | waiting
  | ended (how : LoopEnd) (site : Site ω σ)

namespace Loop

variable {ω σ : Type}

def serving : Loop ω σ := { mode := .serving }

/-- A drain that ends when the queue was empty `limit` times in a row. -/
def draining (limit : Nat) : Loop ω σ := { mode := .draining limit 0 0 }

/-- A loop that looks for its next message. -/
def look : LoopMode → Site ω σ → LoopStep ω σ
  | .serving, site =>
    match site.next with
    | .released => .ended .released site
    | .waiting => .waiting
    | .message message site => .working ⟨.serving, .taken message⟩ site
  | .draining limit idle taken, site =>
    if limit ≤ idle then .ended (.drained taken) site
    else
      match site.take with
      | none => .working ⟨.draining limit (idle + 1) taken, .free⟩ site
      | some (message, site) => .working ⟨.draining limit 0 (taken + 1), .taken message⟩ site

/-- One step of a loop. -/
def step (B : Behaviour ω σ) (loop : Loop ω σ) (site : Site ω σ) : LoopStep ω σ :=
  match loop.work with
  | .free => look loop.mode site
  | .taken message =>
    if site.isTearingDown then .working ⟨loop.mode, .free⟩ site.drop
    else .working ⟨loop.mode, .offering message (site.pass B message)⟩ site
  | .offering message (.ask request next) =>
    let answered := Network.perform request site.network
    .working ⟨loop.mode, .offering message (next answered.1)⟩ (site.withNetwork answered.2)
  | .offering message (.done offered) =>
    if loop.mode = .serving ∧ message.isExit then .ended .exited (site.endPass offered.2)
    else .working ⟨loop.mode, .free⟩ (site.endPass offered.2)

/-- Where a loop stops that runs without a pause. -/
inductive Pause (ω σ : Type) where
  | waiting (loop : Loop ω σ) (site : Site ω σ)
  | ended (how : LoopEnd) (site : Site ω σ)
  /-- The number of steps was not enough. -/
  | exhausted (loop : Loop ω σ) (site : Site ω σ)

/-- The mailbox and the network as the loop left them. -/
def Pause.site : Pause ω σ → Site ω σ
  | .waiting _ site => site
  | .ended _ site => site
  | .exhausted _ site => site

/-- How the loop ended, if it did. -/
def Pause.end? : Pause ω σ → Option LoopEnd
  | .waiting _ _ => none
  | .ended how _ => some how
  | .exhausted _ _ => none

/-- Takes up to `fuel` steps, until the loop waits or ends. -/
def run (B : Behaviour ω σ) : Nat → Loop ω σ → Site ω σ → Pause ω σ
  | 0, loop, site => .exhausted loop site
  | fuel + 1, loop, site =>
    match loop.step B site with
    | .working loop site => run B fuel loop site
    | .waiting => .waiting loop site
    | .ended how site => .ended how site

end Loop

/-- Dispatches the messages in the queue, without waiting for more: a drain that ends when it finds
the queue empty for the first time. -/
def Site.pump {ω σ : Type} (B : Behaviour ω σ) (fuel : Nat) (site : Site ω σ) :
    Loop.Pause ω σ :=
  (Loop.draining 1).run B fuel site

end AgentBus
