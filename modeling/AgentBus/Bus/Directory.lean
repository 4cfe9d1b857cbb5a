import AgentBus.Bus.Message
import AgentBus.Bus.NameTable

/-!
# The directory

The directory publishes endpoints under their names and binds channels to endpoints. Channel names
are the same in any case.
-/

namespace AgentBus

/-- The published endpoints and the bound channels. -/
structure Directory where
  endpoints : NameTable EndpointId := []
  channels : NameTable EndpointId := []
  deriving DecidableEq

namespace Directory

/-- Publishes an endpoint under a name, in place of whatever had it before. -/
def publish (directory : Directory) (name : String) (endpoint : EndpointId) : Directory :=
  { directory with endpoints := directory.endpoints.insert name endpoint }

/-- The endpoint published under a name. -/
def endpoint? (directory : Directory) (name : String) : Option EndpointId :=
  directory.endpoints.find? name

/-- Withdraws a name, together with every channel bound to its endpoint. -/
def withdraw (directory : Directory) (name : String) : Directory :=
  match directory.endpoint? name with
  | none => directory
  | some endpoint =>
    { endpoints := directory.endpoints.erase name
      channels := directory.channels.eraseValue endpoint }

/-- Binds a channel to an endpoint, in place of any earlier binding. -/
def bind (directory : Directory) (channel : String) (endpoint : EndpointId) : Directory :=
  { directory with channels := directory.channels.insert channel.toUpper endpoint }

/-- The endpoint that a channel is bound to. -/
def channel? (directory : Directory) (channel : String) : Option EndpointId :=
  directory.channels.find? channel.toUpper

/-- Whether the directory keeps an endpoint alive. -/
def holds (directory : Directory) (endpoint : EndpointId) : Bool :=
  directory.endpoints.any (fun entry => entry.2 = endpoint) ||
    directory.channels.any (fun entry => entry.2 = endpoint)

end Directory

end AgentBus
