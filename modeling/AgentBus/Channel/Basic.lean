import AgentBus.Bus.Network
import AgentBus.Text.Basic

/-!
# Channels

A channel hands the texts of its peers to the core, each tagged with the channel's name and the
peer's address. Its allow list tells which peers may send at all.
-/

namespace AgentBus

/-- A transport between peers and the core. -/
structure Channel where
  name : String
  /-- The peers that may send; everyone may if there are none. -/
  allowFrom : List String
  endpoint : EndpointId
  core : EndpointId
  limits : Limits
  deriving DecidableEq

/-- Why a channel did not hand over a text. -/
inductive ChannelError where
  | accessDenied (address : String)
  | invalidSource (limit : Nat)
  | notAccepted (core : String)
  deriving DecidableEq

/-- The wording of each error. -/
def ChannelError.message : ChannelError → String
  | .accessDenied address => "Access denied for sender: " ++ address
  | .invalidSource limit => "Invalid source tag: " ++ (Rejection.invalidSource limit).message
  | .notAccepted core =>
    "Send error: core endpoint '" ++ core ++ "' is not accepting messages"

namespace Channel

variable {ω : Type}

/-- A channel under its name in upper case. -/
def make (name : String) (allowFrom : List String) (endpoint core : EndpointId)
    (limits : Limits) : Channel :=
  { name := name.toUpper, allowFrom, endpoint, core, limits }

/-- The identities that a peer goes by: the whole address, and every part of it between vertical
bars that is not empty. -/
def identities (address : String) : List String :=
  address :: (((Text.pieces '|' address.toList).filter (· ≠ [])).map String.ofList)

/-- Whether a peer may send. -/
def allows (channel : Channel) (address : String) : Bool :=
  channel.allowFrom.isEmpty || (identities address).any channel.allowFrom.contains

/-- The name under which an endpoint is known, empty if it is gone. -/
def nameOf (endpoint : EndpointId) : BusProgram ω String :=
  (BusProgram.look endpoint).bind fun info => .done ((info.map EndpointInfo.name).getD "")

/-- Tags a peer's text and sends it to the core. -/
def handOver (channel : Channel) (address text : String) :
    BusProgram ω (Except ChannelError Unit) :=
  if channel.allows address then
    match SourceTag.ofChannel? channel.name address channel.limits.maxSourceLength.toNat with
    | none => .done (.error (.invalidSource channel.limits.maxSourceLength.toNat))
    | some tag =>
      (BusProgram.send (.ofPayload (.recvText ⟨text, some tag.raw⟩)) channel.endpoint
        channel.core).bind fun delivery =>
          match delivery with
          | .queued => .done (.ok ())
          | .dropped =>
            (nameOf channel.core).bind fun core => .done (.error (.notAccepted core))
  else .done (.error (.accessDenied address))

end Channel

end AgentBus
