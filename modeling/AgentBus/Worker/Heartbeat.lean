import AgentBus.Calendar
import AgentBus.Protocol.Frame
import AgentBus.Worker.Basic

/-!
# Heartbeats

A heartbeat is an event that carries its number and the time at which it was sent. The heartbeat
worker sends one to the core whenever its time has come. When that is, is known only to the clock
outside: the worker is given the times at which it ticks. The clock has a limited range, which a
very long period exceeds, and the worker panics if the clock does not get as far as the first
heartbeat.
-/

namespace AgentBus.Heartbeat

/-- The name of the event, and of the worker that sends it. -/
def name : String := "heartbeat"

/-- The line of heartbeat number `tick`, and the event ids that are left. -/
def event (ids : EventIds) (tick : UInt64) (time : UtcTime) : String × EventIds :=
  let (event, ids) := ids.prepare
  let body :=
    event.body.setStatus .ok |>.addText name |>.addText (toString tick.toNat) |>.addText time.text
  ({ event with body }.render, ids)

/-! ## The clock -/

/-- The seconds between two heartbeats: at least one. -/
def period (interval : UInt64) : Nat :=
  max interval.toNat 1

/-- The clock by which heartbeats are waited for counts seconds up to this many. -/
def clockEnd : Nat := UInt64.size / 2 - 1

/-- Whether the clock gets as far as the first heartbeat after it started at `clock`. -/
def isWithinClock (interval : UInt64) (clock : Nat) : Bool :=
  clock + period interval ≤ clockEnd

/-! ## The worker -/

variable {ω σ : Type}

/-- Sends heartbeat number `tick` to the core. -/
def tick (post : Post) (tick : UInt64) (time : UtcTime) : BusProgram ω Unit :=
  (BusProgram.change .takeEventId).bind fun context =>
    let line := (event context.eventIds tick time).1
    (BusProgram.send (.ofPayload (.event line)) post.own post.core).bind fun _ => .done ()

/-- The heartbeats at a list of times, numbered from `first`. -/
def ticks (post : Post) (first : UInt64) : List UtcTime → List (BusProgram ω Unit)
  | [] => []
  | time :: rest => tick post first time :: ticks post (first + 1) rest

/-- The worker that starts when the clock shows `clock`, and ticks at the given times. -/
def worker (interval : UInt64) (clock : Nat) (times : List UtcTime) : Worker ω σ where
  name := name
  main post :=
    .done (if isWithinClock interval clock then .serve (ticks post 1 times) 0 else .panic)

end AgentBus.Heartbeat
