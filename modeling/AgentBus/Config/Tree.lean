import AgentBus.Config.Basic
import AgentBus.Json.Basic

/-!
# Configurations as JSON trees

`Config.toJson` writes a configuration as JSON, and `Config.ofJson?` reads one back.

A section is read from an object, whose fields may be missing and whose unknown fields are ignored,
or from an array of the fields in their order, which may be too short but not too long. A field
that is there has to have the type of its setting.
-/

namespace AgentBus

/-! ## Writing -/

namespace Json

def ofUInt64 (value : UInt64) : Json :=
  .number (.integer value.toNat)

def ofUInt32 (value : UInt32) : Json :=
  .number (.integer value.toNat)

def ofStrings (texts : List String) : Json :=
  .array (texts.map .string)

end Json

def StringMap.toJson (map : StringMap) : Json :=
  .object (map.entries.map fun (key, value) => (key, .string value))

def LoggingConfig.toJson (config : LoggingConfig) : Json :=
  .object
    [("level", .string config.level), ("format", .string config.format),
      ("dir", .string config.dir), ("retention_days", .ofUInt64 config.retentionDays),
      ("overrides", config.overrides.toJson)]

def Limits.toJson (limits : Limits) : Json :=
  .object
    [("max_text_len", .ofUInt64 limits.maxTextLength),
      ("max_op_name_len", .ofUInt64 limits.maxOperationLength),
      ("max_from_len", .ofUInt64 limits.maxSourceLength)]

def DrainPolicy.toJson (policy : DrainPolicy) : Json :=
  .object
    [("drain_idle_iterations", .ofUInt32 policy.idleIterations),
      ("drain_idle_tick_ms", .ofUInt64 policy.idleTickMs)]

def HeartbeatConfig.toJson (config : HeartbeatConfig) : Json :=
  .object
    [("enabled", .bool config.enabled), ("interval_s", .ofUInt64 config.intervalSeconds)]

def ConsoleConfig.toJson (config : ConsoleConfig) : Json :=
  .object [("enabled", .bool config.enabled), ("allow_from", .ofStrings config.allowFrom)]

def ChannelsConfig.toJson (config : ChannelsConfig) : Json :=
  .object [("console", config.console.toJson)]

/-- The tree of a configuration, with all its settings. -/
def Config.toJson (config : Config) : Json :=
  .object
    [("logging", config.logging.toJson), ("protocol", config.protocol.toJson),
      ("bus", config.bus.toJson), ("heartbeat", config.heartbeat.toJson),
      ("channels", config.channels.toJson)]

/-! ## Reading -/

namespace Json

def asString? : Json → Option String
  | .string value => some value
  | _ => none

def asBool? : Json → Option Bool
  | .bool value => some value
  | _ => none

/-- An integer from zero up to, but not including, `bound`. -/
def asNatBelow? (bound : Nat) : Json → Option Nat
  | .number (.integer value) => if 0 ≤ value ∧ value < bound then some value.toNat else none
  | _ => none

def asUInt64? (tree : Json) : Option UInt64 :=
  (tree.asNatBelow? UInt64.size).map UInt64.ofNat

def asUInt32? (tree : Json) : Option UInt32 :=
  (tree.asNatBelow? UInt32.size).map UInt32.ofNat

def asStrings? : Json → Option (List String)
  | .array items => items.mapM asString?
  | _ => none

/-- Whether the tree can be a section of so many fields. -/
def isSection (fields : Nat) : Json → Bool
  | .object _ => true
  | .array items => items.length ≤ fields
  | _ => false

/-- A field of a section: by its name in an object, by its position in an array. -/
def field? (position : Nat) (name : String) : Json → Option Json
  | .object entries => lookup name entries
  | .array items => items[position]?
  | _ => none

/-- The setting in a field of a section; a missing field has its default. -/
def setting (tree : Json) (position : Nat) (name : String) (decode : Json → Option α)
    (default : α) : Option α :=
  match tree.field? position name with
  | none => some default
  | some value => decode value

end Json

/-- An entry whose value is a string. -/
def StringMap.entryOfJson? (entry : String × Json) : Option (String × String) :=
  entry.2.asString?.map fun text => (entry.1, text)

def StringMap.ofJson? : Json → Option StringMap
  | .object entries => (entries.mapM StringMap.entryOfJson?).map StringMap.ofList
  | _ => none

def LoggingConfig.ofJson? (tree : Json) : Option LoggingConfig := do
  guard (tree.isSection 5)
  let default : LoggingConfig := {}
  let level ← tree.setting 0 "level" Json.asString? default.level
  let format ← tree.setting 1 "format" Json.asString? default.format
  let dir ← tree.setting 2 "dir" Json.asString? default.dir
  let retentionDays ← tree.setting 3 "retention_days" Json.asUInt64? default.retentionDays
  let overrides ← tree.setting 4 "overrides" StringMap.ofJson? default.overrides
  return { level, format, dir, retentionDays, overrides }

def Limits.ofJson? (tree : Json) : Option Limits := do
  guard (tree.isSection 3)
  let default : Limits := {}
  let maxTextLength ← tree.setting 0 "max_text_len" Json.asUInt64? default.maxTextLength
  let maxOperationLength ←
    tree.setting 1 "max_op_name_len" Json.asUInt64? default.maxOperationLength
  let maxSourceLength ← tree.setting 2 "max_from_len" Json.asUInt64? default.maxSourceLength
  return { maxTextLength, maxOperationLength, maxSourceLength }

def DrainPolicy.ofJson? (tree : Json) : Option DrainPolicy := do
  guard (tree.isSection 2)
  let default : DrainPolicy := {}
  let idleIterations ←
    tree.setting 0 "drain_idle_iterations" Json.asUInt32? default.idleIterations
  let idleTickMs ← tree.setting 1 "drain_idle_tick_ms" Json.asUInt64? default.idleTickMs
  return { idleIterations, idleTickMs }

def HeartbeatConfig.ofJson? (tree : Json) : Option HeartbeatConfig := do
  guard (tree.isSection 2)
  let default : HeartbeatConfig := {}
  let enabled ← tree.setting 0 "enabled" Json.asBool? default.enabled
  let intervalSeconds ← tree.setting 1 "interval_s" Json.asUInt64? default.intervalSeconds
  return { enabled, intervalSeconds }

def ConsoleConfig.ofJson? (tree : Json) : Option ConsoleConfig := do
  guard (tree.isSection 2)
  let default : ConsoleConfig := {}
  let enabled ← tree.setting 0 "enabled" Json.asBool? default.enabled
  let allowFrom ← tree.setting 1 "allow_from" Json.asStrings? default.allowFrom
  return { enabled, allowFrom }

def ChannelsConfig.ofJson? (tree : Json) : Option ChannelsConfig := do
  guard (tree.isSection 1)
  let console ← tree.setting 0 "console" ConsoleConfig.ofJson? {}
  return { console }

/-- The configuration that a tree describes. -/
def Config.ofJson? (tree : Json) : Option Config := do
  guard (tree.isSection 5)
  let logging ← tree.setting 0 "logging" LoggingConfig.ofJson? {}
  let protocol ← tree.setting 1 "protocol" Limits.ofJson? {}
  let bus ← tree.setting 2 "bus" DrainPolicy.ofJson? {}
  let heartbeat ← tree.setting 3 "heartbeat" HeartbeatConfig.ofJson? {}
  let channels ← tree.setting 4 "channels" ChannelsConfig.ofJson? {}
  return { logging, protocol, bus, heartbeat, channels }

end AgentBus
