import AgentBus.Config.Basic

/-!
# Valid configurations

`Config.faults` lists everything that is wrong with a configuration, in the order of its sections.
-/

namespace AgentBus

/-- A rule that a configuration breaks. -/
inductive ConfigFault where
  | logLevel
  | logFormat
  | logDir
  | maxTextLength
  | maxOperationLength
  | maxSourceLength
  | drainIterations
  | heartbeatInterval
  | emptySender (index : Nat)
  deriving DecidableEq

def logLevels : List String := ["trace", "debug", "info", "warn", "error"]

def logFormats : List String := ["text", "json"]

/-- The wording of each fault. -/
def ConfigFault.message : ConfigFault → String
  | .logLevel => "logging.level must be one of " ++ ", ".intercalate logLevels
  | .logFormat => "logging.format must be text or json"
  | .logDir => "logging.dir must not be empty"
  | .maxTextLength => "protocol.max_text_len must be > 0"
  | .maxOperationLength => "protocol.max_op_name_len must be > 0"
  | .maxSourceLength => "protocol.max_from_len must be > 0"
  | .drainIterations => "bus.drain_idle_iterations must be > 0"
  | .heartbeatInterval => "heartbeat.interval_s must be > 0 when heartbeat is enabled"
  | .emptySender index =>
    "channels.console.allow_from[" ++ toString index ++ "] must not be empty"

namespace Config

/-- The fault, if the rule is broken. -/
def faultIf (broken : Bool) (fault : ConfigFault) : List ConfigFault :=
  if broken then [fault] else []

/-- The senders that are blank, by their position. -/
def emptySenders (senders : List String) : List ConfigFault :=
  senders.zipIdx.flatMap fun (sender, index) =>
    faultIf (Text.isBlankLine sender) (.emptySender index)

/-- Everything that is wrong with a configuration. -/
def faults (config : Config) : List ConfigFault :=
  faultIf (!logLevels.contains config.logging.level.toLower) .logLevel ++
    faultIf (!logFormats.contains config.logging.format.toLower) .logFormat ++
    faultIf (Text.isBlankLine config.logging.dir) .logDir ++
    faultIf (config.protocol.maxTextLength = 0) .maxTextLength ++
    faultIf (config.protocol.maxOperationLength = 0) .maxOperationLength ++
    faultIf (config.protocol.maxSourceLength = 0) .maxSourceLength ++
    faultIf (config.bus.idleIterations = 0) .drainIterations ++
    faultIf (config.heartbeat.enabled && config.heartbeat.intervalSeconds = 0)
      .heartbeatInterval ++
    emptySenders config.channels.console.allowFrom

def isValid (config : Config) : Bool :=
  config.faults.isEmpty

end Config

end AgentBus
