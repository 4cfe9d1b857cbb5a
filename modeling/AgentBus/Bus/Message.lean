import AgentBus.Protocol.Command

/-!
# Messages

A message is a payload on its way from one endpoint to another. Its route names the two endpoints
without keeping them alive.
-/

namespace AgentBus

/-- The identity of an endpoint: its number in the order of creation, never used again. -/
structure EndpointId where
  index : Nat
  deriving DecidableEq

/-- A text and the tag of the peer it belongs to, if that is known. -/
structure TextPayload where
  text : String
  source : Option String := none
  deriving DecidableEq

/-- What a message carries. -/
inductive Payload where
  /-- A text that a transport received. -/
  | recvText (payload : TextPayload)
  /-- A rendered text for the one who asked. -/
  | sendText (payload : TextPayload)
  /-- A command to be executed. -/
  | sendCommand (command : Command)
  /-- A rendered event. -/
  | event (text : String)
  /-- Asks the receiving loop to stop. -/
  | exit
  /-- A text to be written to a channel's transport as it is. -/
  | transportText (payload : TextPayload)
  deriving DecidableEq

/-- The kinds of messages. -/
inductive MessageKind where
  | recvText
  | sendText
  | sendCommand
  | event
  | exit
  | transportText
  deriving DecidableEq

def MessageKind.text : MessageKind → String
  | .recvText => "recv-text"
  | .sendText => "send-text"
  | .sendCommand => "send-command"
  | .event => "event"
  | .exit => "exit"
  | .transportText => "transport-text"

def MessageKind.all : List MessageKind :=
  [.recvText, .sendText, .sendCommand, .event, .exit, .transportText]

/-- The kind of a name. -/
def MessageKind.ofText? (text : String) : Option MessageKind :=
  all.find? fun kind => kind.text = text

def Payload.kind : Payload → MessageKind
  | .recvText _ => .recvText
  | .sendText _ => .sendText
  | .sendCommand _ => .sendCommand
  | .event _ => .event
  | .exit => .exit
  | .transportText _ => .transportText

/-- Where a message was sent from, and where to. -/
structure Route where
  source : EndpointId
  destination : EndpointId
  deriving DecidableEq

/-- A payload with its route; a message that was never sent has none. -/
structure Message where
  payload : Payload
  route : Option Route := none
  deriving DecidableEq

namespace Message

def ofPayload (payload : Payload) : Message := ⟨payload, none⟩

def isExit (message : Message) : Bool :=
  message.payload = .exit

/-- The message on its way between two endpoints. -/
def routed (message : Message) (source destination : EndpointId) : Message :=
  { message with route := some ⟨source, destination⟩ }

end Message

end AgentBus
