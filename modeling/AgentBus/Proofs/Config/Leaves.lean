import Mathlib.Data.Option.Basic
import AgentBus.Config.Load
import AgentBus.Proofs.Json.Entries

/-!
# The leaves of a configuration

Every setting but the map of log levels is one value at one path of the tree (`Leaf`). What a
configuration has there is what the tree has there, read as the setting is read (`Leaf.reads`); what
else is in the tree does not count.
-/

namespace AgentBus

/-! ## The settings -/

/-- A setting with one value of its own, that is every setting but the map of log levels. -/
inductive Leaf : Type → Type where
  | logLevel : Leaf String
  | logFormat : Leaf String
  | logDir : Leaf String
  | retentionDays : Leaf UInt64
  | maxTextLength : Leaf UInt64
  | maxOperationLength : Leaf UInt64
  | maxSourceLength : Leaf UInt64
  | idleIterations : Leaf UInt32
  | idleTickMs : Leaf UInt64
  | heartbeatEnabled : Leaf Bool
  | heartbeatInterval : Leaf UInt64
  | consoleEnabled : Leaf Bool
  | consoleAllowFrom : Leaf (List String)

namespace Leaf

variable {α : Type}

/-- Where the setting stands in a tree. -/
def path : Leaf α → List String
  | logLevel => ["logging", "level"]
  | logFormat => ["logging", "format"]
  | logDir => ["logging", "dir"]
  | retentionDays => ["logging", "retention_days"]
  | maxTextLength => ["protocol", "max_text_len"]
  | maxOperationLength => ["protocol", "max_op_name_len"]
  | maxSourceLength => ["protocol", "max_from_len"]
  | idleIterations => ["bus", "drain_idle_iterations"]
  | idleTickMs => ["bus", "drain_idle_tick_ms"]
  | heartbeatEnabled => ["heartbeat", "enabled"]
  | heartbeatInterval => ["heartbeat", "interval_s"]
  | consoleEnabled => ["channels", "console", "enabled"]
  | consoleAllowFrom => ["channels", "console", "allow_from"]

/-- How the value of the setting is read. -/
def decode : Leaf α → Json → Option α
  | logLevel | logFormat | logDir => Json.asString?
  | retentionDays | maxTextLength | maxOperationLength | maxSourceLength | idleTickMs
  | heartbeatInterval => Json.asUInt64?
  | idleIterations => Json.asUInt32?
  | heartbeatEnabled | consoleEnabled => Json.asBool?
  | consoleAllowFrom => Json.asStrings?

def get : Leaf α → Config → α
  | logLevel => fun config => config.logging.level
  | logFormat => fun config => config.logging.format
  | logDir => fun config => config.logging.dir
  | retentionDays => fun config => config.logging.retentionDays
  | maxTextLength => fun config => config.protocol.maxTextLength
  | maxOperationLength => fun config => config.protocol.maxOperationLength
  | maxSourceLength => fun config => config.protocol.maxSourceLength
  | idleIterations => fun config => config.bus.idleIterations
  | idleTickMs => fun config => config.bus.idleTickMs
  | heartbeatEnabled => fun config => config.heartbeat.enabled
  | heartbeatInterval => fun config => config.heartbeat.intervalSeconds
  | consoleEnabled => fun config => config.channels.console.enabled
  | consoleAllowFrom => fun config => config.channels.console.allowFrom

theorem default_found (leaf : Leaf α) :
    ∃ value, ({} : Config).toJson.atPath? leaf.path = some value ∧ value.isObject = false := by
  cases leaf <;> exact ⟨_, rfl, rfl⟩

theorem decode_object (leaf : Leaf α) {value : Json} {a : α}
    (decoded : leaf.decode value = some a) :
    value.isObject = false := by
  cases value with
  | object entries => cases leaf <;> contradiction
  | _ => rfl

end Leaf

/-! ## Reading a leaf -/

/-- Whatever the tree has at the path is read as a part of what the whole tree is read as. -/
def Json.Reads {α β : Type} (decode : Json → Option α) (path : List String)
    (part : Json → Option β) (get : α → β) : Prop :=
  ∀ ⦃tree a value⦄, decode tree = some a → tree.atPath? path = some value →
    part value = some (get a)

namespace Json.Reads

variable {α β γ : Type} {decode : Json → Option α} {inner : Json → Option β}
  {part : Json → Option γ} {path : List String}

theorem here : Reads part [] part id := by
  intro tree a value read found
  cases found
  exact read

/-- A section reads whatever the tree of a field reads. -/
theorem field {position : Nat} {name : String} {default : β} {first : α → β} {rest : β → γ}
    (holds : ∀ {tree a}, decode tree = some a →
      tree.setting position name inner default = some (first a))
    (later : Reads inner path part rest) :
    Reads decode (name :: path) part fun a => rest (first a) := by
  intro tree a value read found
  obtain ⟨entries, next, rfl, entry, reached⟩ := atPath?_cons_eq_some.1 found
  have decoded := holds read
  rw [setting, field?, entry] at decoded
  exact later decoded reached

end Json.Reads

section

variable {tree : Json}

theorem LoggingConfig.settings_of_ofJson? {config : LoggingConfig}
    (read : ofJson? tree = some config) :
    tree.setting 0 "level" Json.asString? ({} : LoggingConfig).level = some config.level ∧
      tree.setting 1 "format" Json.asString? ({} : LoggingConfig).format = some config.format ∧
      tree.setting 2 "dir" Json.asString? ({} : LoggingConfig).dir = some config.dir ∧
      tree.setting 3 "retention_days" Json.asUInt64? ({} : LoggingConfig).retentionDays =
        some config.retentionDays := by
  simp only [ofJson?, Option.bind_eq_bind, Option.bind_eq_some_iff] at read
  obtain ⟨_, _, level, first, format, second, dir, third, days, fourth, overrides, _, same⟩ := read
  cases same
  exact ⟨first, second, third, fourth⟩

theorem Limits.settings_of_ofJson? {limits : Limits} (read : ofJson? tree = some limits) :
    tree.setting 0 "max_text_len" Json.asUInt64? ({} : Limits).maxTextLength =
        some limits.maxTextLength ∧
      tree.setting 1 "max_op_name_len" Json.asUInt64? ({} : Limits).maxOperationLength =
        some limits.maxOperationLength ∧
      tree.setting 2 "max_from_len" Json.asUInt64? ({} : Limits).maxSourceLength =
        some limits.maxSourceLength := by
  simp only [ofJson?, Option.bind_eq_bind, Option.bind_eq_some_iff] at read
  obtain ⟨_, _, text, first, operation, second, source, third, same⟩ := read
  cases same
  exact ⟨first, second, third⟩

theorem DrainPolicy.settings_of_ofJson? {policy : DrainPolicy}
    (read : ofJson? tree = some policy) :
    tree.setting 0 "drain_idle_iterations" Json.asUInt32? ({} : DrainPolicy).idleIterations =
        some policy.idleIterations ∧
      tree.setting 1 "drain_idle_tick_ms" Json.asUInt64? ({} : DrainPolicy).idleTickMs =
        some policy.idleTickMs := by
  simp only [ofJson?, Option.bind_eq_bind, Option.bind_eq_some_iff] at read
  obtain ⟨_, _, iterations, first, tick, second, same⟩ := read
  cases same
  exact ⟨first, second⟩

theorem HeartbeatConfig.settings_of_ofJson? {config : HeartbeatConfig}
    (read : ofJson? tree = some config) :
    tree.setting 0 "enabled" Json.asBool? ({} : HeartbeatConfig).enabled = some config.enabled ∧
      tree.setting 1 "interval_s" Json.asUInt64? ({} : HeartbeatConfig).intervalSeconds =
        some config.intervalSeconds := by
  simp only [ofJson?, Option.bind_eq_bind, Option.bind_eq_some_iff] at read
  obtain ⟨_, _, enabled, first, interval, second, same⟩ := read
  cases same
  exact ⟨first, second⟩

theorem ConsoleConfig.settings_of_ofJson? {config : ConsoleConfig}
    (read : ofJson? tree = some config) :
    tree.setting 0 "enabled" Json.asBool? ({} : ConsoleConfig).enabled = some config.enabled ∧
      tree.setting 1 "allow_from" Json.asStrings? ({} : ConsoleConfig).allowFrom =
        some config.allowFrom := by
  simp only [ofJson?, Option.bind_eq_bind, Option.bind_eq_some_iff] at read
  obtain ⟨_, _, enabled, first, allowed, second, same⟩ := read
  cases same
  exact ⟨first, second⟩

theorem ChannelsConfig.settings_of_ofJson? {config : ChannelsConfig}
    (read : ofJson? tree = some config) :
    tree.setting 0 "console" ConsoleConfig.ofJson? {} = some config.console := by
  simp only [ofJson?, Option.bind_eq_bind, Option.bind_eq_some_iff] at read
  obtain ⟨_, _, console, first, same⟩ := read
  cases same
  exact first

theorem Config.sections_of_ofJson? {config : Config} (read : ofJson? tree = some config) :
    tree.setting 0 "logging" LoggingConfig.ofJson? {} = some config.logging ∧
      tree.setting 1 "protocol" Limits.ofJson? {} = some config.protocol ∧
      tree.setting 2 "bus" DrainPolicy.ofJson? {} = some config.bus ∧
      tree.setting 3 "heartbeat" HeartbeatConfig.ofJson? {} = some config.heartbeat ∧
      tree.setting 4 "channels" ChannelsConfig.ofJson? {} = some config.channels := by
  simp only [ofJson?, Option.bind_eq_bind, Option.bind_eq_some_iff] at read
  obtain ⟨_, _, logging, first, protocol, second, bus, third, heartbeat, fourth, channels, fifth,
    same⟩ := read
  cases same
  exact ⟨first, second, third, fourth, fifth⟩

end

section

variable {β : Type} {path : List String} {part : Json → Option β}

theorem Config.reads_logging {get : LoggingConfig → β}
    (later : Json.Reads LoggingConfig.ofJson? path part get) :
    Json.Reads ofJson? ("logging" :: path) part fun config => get config.logging :=
  .field (fun read => (sections_of_ofJson? read).1) later

theorem Config.reads_protocol {get : Limits → β} (later : Json.Reads Limits.ofJson? path part get) :
    Json.Reads ofJson? ("protocol" :: path) part fun config => get config.protocol :=
  .field (fun read => (sections_of_ofJson? read).2.1) later

theorem Config.reads_bus {get : DrainPolicy → β}
    (later : Json.Reads DrainPolicy.ofJson? path part get) :
    Json.Reads ofJson? ("bus" :: path) part fun config => get config.bus :=
  .field (fun read => (sections_of_ofJson? read).2.2.1) later

theorem Config.reads_heartbeat {get : HeartbeatConfig → β}
    (later : Json.Reads HeartbeatConfig.ofJson? path part get) :
    Json.Reads ofJson? ("heartbeat" :: path) part fun config => get config.heartbeat :=
  .field (fun read => (sections_of_ofJson? read).2.2.2.1) later

theorem Config.reads_channels {get : ChannelsConfig → β}
    (later : Json.Reads ChannelsConfig.ofJson? path part get) :
    Json.Reads ofJson? ("channels" :: path) part fun config => get config.channels :=
  .field (fun read => (sections_of_ofJson? read).2.2.2.2) later

theorem ChannelsConfig.reads_console {get : ConsoleConfig → β}
    (later : Json.Reads ConsoleConfig.ofJson? path part get) :
    Json.Reads ofJson? ("console" :: path) part fun config => get config.console :=
  .field settings_of_ofJson? later

end

/-- A configuration has at each leaf what its tree has there. -/
theorem Leaf.reads {α : Type} (leaf : Leaf α) :
    Json.Reads Config.ofJson? leaf.path leaf.decode leaf.get := by
  cases leaf with
  | logLevel =>
    exact Config.reads_logging
      (.field (fun read => (LoggingConfig.settings_of_ofJson? read).1) .here)
  | logFormat =>
    exact Config.reads_logging
      (.field (fun read => (LoggingConfig.settings_of_ofJson? read).2.1) .here)
  | logDir =>
    exact Config.reads_logging
      (.field (fun read => (LoggingConfig.settings_of_ofJson? read).2.2.1) .here)
  | retentionDays =>
    exact Config.reads_logging
      (.field (fun read => (LoggingConfig.settings_of_ofJson? read).2.2.2) .here)
  | maxTextLength =>
    exact Config.reads_protocol (.field (fun read => (Limits.settings_of_ofJson? read).1) .here)
  | maxOperationLength =>
    exact Config.reads_protocol (.field (fun read => (Limits.settings_of_ofJson? read).2.1) .here)
  | maxSourceLength =>
    exact Config.reads_protocol (.field (fun read => (Limits.settings_of_ofJson? read).2.2) .here)
  | idleIterations =>
    exact Config.reads_bus (.field (fun read => (DrainPolicy.settings_of_ofJson? read).1) .here)
  | idleTickMs =>
    exact Config.reads_bus (.field (fun read => (DrainPolicy.settings_of_ofJson? read).2) .here)
  | heartbeatEnabled =>
    exact Config.reads_heartbeat
      (.field (fun read => (HeartbeatConfig.settings_of_ofJson? read).1) .here)
  | heartbeatInterval =>
    exact Config.reads_heartbeat
      (.field (fun read => (HeartbeatConfig.settings_of_ofJson? read).2) .here)
  | consoleEnabled =>
    exact Config.reads_channels (ChannelsConfig.reads_console
      (.field (fun read => (ConsoleConfig.settings_of_ofJson? read).1) .here))
  | consoleAllowFrom =>
    exact Config.reads_channels (ChannelsConfig.reads_console
      (.field (fun read => (ConsoleConfig.settings_of_ofJson? read).2) .here))

end AgentBus
