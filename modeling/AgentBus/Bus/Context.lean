import AgentBus.Bus.Directory
import AgentBus.Config.Basic

/-!
# The shared context

What all threads of the agent share: the configuration, the directory, the source of event ids,
and whether a shutdown was requested.
-/

namespace AgentBus

structure Context where
  config : Config := {}
  directory : Directory := {}
  eventIds : EventIds := {}
  shutdownRequested : Bool := false
  /-- The whole seconds since the agent started. -/
  uptimeSeconds : Nat := 0
  deriving DecidableEq

/-- What a thread can do to the shared context, each at one go. -/
inductive ContextChange where
  | takeEventId
  | requestShutdown
  | publish (name : String) (endpoint : EndpointId)
  | withdraw (name : String)
  | bind (channel : String) (endpoint : EndpointId)
  deriving DecidableEq

namespace Context

/-- The limits that commands are parsed with. -/
def limits (context : Context) : Limits :=
  context.config.protocol

def apply (context : Context) : ContextChange → Context
  | .takeEventId => { context with eventIds := context.eventIds.prepare.2 }
  | .requestShutdown => { context with shutdownRequested := true }
  | .publish name endpoint =>
    { context with directory := context.directory.publish name endpoint }
  | .withdraw name => { context with directory := context.directory.withdraw name }
  | .bind channel endpoint =>
    { context with directory := context.directory.bind channel endpoint }

end Context

end AgentBus
