import Mathlib.Data.Option.Basic
import AgentBus.Config.Load
import AgentBus.Proofs.Json.RoundTrip

/-!
# Saved configurations are read back

A configuration goes through four layers on its way to a file and back: its tree, the text of the
tree, the overlay over the defaults and the reading of the settings. None of them changes it:

* the tree is plain, so its text is read as the tree (`Config.plain_toJson`, `Json.read_pretty`);
* the tree has every setting of the defaults in its place, so nothing of the defaults is left
  (`Config.covers_default`);
* the settings of the tree are those of the configuration (`Config.ofJson?_toJson`).
-/

namespace AgentBus

/-! ## The tree -/

namespace Json

variable {depth : Nat}

theorem plain_ofUInt64 (value : UInt64) : Plain depth (.ofUInt64 value) := by
  have least : Int64.minValue.toInt ≤ 0 := by decide
  have bound := value.toNat_lt_size
  exact .integer (by omega) (by omega)

theorem plain_ofUInt32 (value : UInt32) : Plain depth (.ofUInt32 value) := by
  have least : Int64.minValue.toInt ≤ 0 := by decide
  have bound := value.toNat_lt_size
  have wider : UInt32.size < UInt64.size := by decide
  exact .integer (by omega) (by omega)

theorem plain_ofStrings (texts : List String) : Plain (depth + 1) (.ofStrings texts) := by
  apply Plain.array
  intro item member
  obtain ⟨text, _, rfl⟩ := List.mem_map.1 member
  exact .string text

end Json

theorem StringMap.plain_toJson {depth : Nat} (map : StringMap) :
    Json.Plain (depth + 1) map.toJson := by
  apply Json.Plain.object
  · rw [List.map_map]
    exact map.distinct
  · intro entry member
    obtain ⟨⟨key, text⟩, _, rfl⟩ := List.mem_map.1 member
    exact .string text

theorem Config.plain_toJson (config : Config) (depth : Nat) :
    Json.Plain (depth + 4) config.toJson := by
  have logging : Json.Plain (depth + 3) config.logging.toJson :=
    .object (by simp) (by
      simp [Json.Plain.string, Json.plain_ofUInt64, StringMap.plain_toJson])
  have protocol : Json.Plain (depth + 3) config.protocol.toJson :=
    .object (by simp) (by simp [Json.plain_ofUInt64])
  have bus : Json.Plain (depth + 3) config.bus.toJson :=
    .object (by simp) (by simp [Json.plain_ofUInt32, Json.plain_ofUInt64])
  have heartbeat : Json.Plain (depth + 3) config.heartbeat.toJson :=
    .object (by simp) (by simp [Json.Plain.bool, Json.plain_ofUInt64])
  have console : Json.Plain (depth + 2) config.channels.console.toJson :=
    .object (by simp) (by simp [Json.Plain.bool, Json.plain_ofStrings])
  have channels : Json.Plain (depth + 3) config.channels.toJson :=
    .object (by simp) (by simp [console])
  exact .object (by simp) (by simp [logging, protocol, bus, heartbeat, channels])

/-! ## The overlay -/

namespace Json

theorem overlayEntries_of_fresh {base entries : List (String × Json)}
    (distinct : ((base ++ entries).map Prod.fst).Nodup) :
    overlayEntries base entries = base ++ entries := by
  induction entries generalizing base with
  | nil => rw [overlayEntries, List.append_nil]
  | cons entry rest ih =>
    have fresh : entry.1 ∉ base.map Prod.fst := fresh_of_distinct distinct
    rw [overlayEntries, lookup_of_fresh fresh, put_of_fresh fresh]
    have regroup : base ++ entry :: rest = base ++ [entry] ++ rest := by
      rw [List.append_assoc, List.singleton_append]
    rw [regroup] at distinct ⊢
    exact ih distinct

/-- Nothing of the base is left under the value. -/
def Covers (base value : Json) : Prop :=
  overlay base value = value

theorem overlayEntries_of_covers (done : List (String × Json)) {base entries : List (String × Json)}
    (distinct : ((done ++ entries).map Prod.fst).Nodup)
    (covers : List.Forall₂ (fun old new => old.1 = new.1 ∧ Covers old.2 new.2) base entries) :
    overlayEntries (done ++ base) entries = done ++ entries := by
  induction covers generalizing done with
  | nil => rw [overlayEntries]
  | @cons old new base entries first later ih =>
    obtain ⟨same, covers⟩ := first
    have fresh : new.1 ∉ done.map Prod.fst := fresh_of_distinct distinct
    have found : lookup new.1 (done ++ old :: base) = some old.2 := by
      rw [lookup_append fresh, lookup, if_pos same]
    have changed : put new.1 new.2 (done ++ old :: base) = done ++ [new] ++ base := by
      rw [put_append fresh, put, if_pos same, same, List.append_assoc, List.singleton_append]
    have regroup : done ++ new :: entries = done ++ [new] ++ entries := by
      rw [List.append_assoc, List.singleton_append]
    rw [overlayEntries, found]
    rw [regroup] at distinct ⊢
    simp only [show overlay old.2 new.2 = new.2 from covers, changed]
    exact ih _ distinct

@[simp]
theorem covers_bool (base : Json) (value : Bool) : Covers base (.bool value) := rfl

@[simp]
theorem covers_string (base : Json) (value : String) : Covers base (.string value) := rfl

@[simp]
theorem covers_ofUInt64 (base : Json) (value : UInt64) : Covers base (.ofUInt64 value) := rfl

@[simp]
theorem covers_ofUInt32 (base : Json) (value : UInt32) : Covers base (.ofUInt32 value) := rfl

@[simp]
theorem covers_ofStrings (base : Json) (texts : List String) : Covers base (.ofStrings texts) := rfl

theorem covers_empty {entries : List (String × Json)} (distinct : (entries.map Prod.fst).Nodup) :
    Covers (.object []) (.object entries) :=
  congrArg Json.object (overlayEntries_of_fresh distinct)

theorem covers_object {base entries : List (String × Json)}
    (distinct : (entries.map Prod.fst).Nodup)
    (covers : List.Forall₂ (fun old new => old.1 = new.1 ∧ Covers old.2 new.2) base entries) :
    Covers (.object base) (.object entries) :=
  congrArg Json.object (overlayEntries_of_covers [] distinct covers)

end Json

theorem StringMap.covers_empty (map : StringMap) :
    Json.Covers (∅ : StringMap).toJson map.toJson := by
  apply Json.covers_empty
  rw [List.map_map]
  exact map.distinct

/-- The settings of a configuration take the place of all the defaults. -/
theorem Config.covers_default (config : Config) :
    Json.Covers ({} : Config).toJson config.toJson := by
  have logging (base : LoggingConfig) (none : base.overrides = ∅) :
      Json.Covers base.toJson config.logging.toJson := by
    apply Json.covers_object (by simp)
    simp [none, StringMap.covers_empty]
  have protocol (base : Limits) : Json.Covers base.toJson config.protocol.toJson := by
    apply Json.covers_object (by simp)
    simp
  have bus (base : DrainPolicy) : Json.Covers base.toJson config.bus.toJson := by
    apply Json.covers_object (by simp)
    simp
  have heartbeat (base : HeartbeatConfig) : Json.Covers base.toJson config.heartbeat.toJson := by
    apply Json.covers_object (by simp)
    simp
  have console (base : ConsoleConfig) :
      Json.Covers base.toJson config.channels.console.toJson := by
    apply Json.covers_object (by simp)
    simp
  have channels (base : ChannelsConfig) : Json.Covers base.toJson config.channels.toJson := by
    apply Json.covers_object (by simp)
    simp [console]
  apply Json.covers_object (by simp)
  simp [logging, protocol, bus, heartbeat, channels]

/-! ## The settings -/

theorem mapM_map_eq_some {α β : Type} {encode : α → β} (decode : β → Option α)
    (inverse : ∀ a, decode (encode a) = some a) (items : List α) :
    (items.map encode).mapM decode = some items := by
  induction items with
  | nil => rfl
  | cons item rest ih => rw [List.map_cons, List.mapM_cons, inverse, ih]; rfl

namespace Json

theorem asNatBelow?_natCast {bound n : Nat} (below : n < bound) :
    asNatBelow? bound (.number (.integer n)) = some n := by
  rw [asNatBelow?, if_pos (by omega), Int.toNat_natCast]

@[simp]
theorem asUInt64?_ofUInt64 (value : UInt64) : (Json.ofUInt64 value).asUInt64? = some value := by
  rw [asUInt64?, ofUInt64, asNatBelow?_natCast value.toNat_lt_size, Option.map_some,
    UInt64.ofNat_toNat]

@[simp]
theorem asUInt32?_ofUInt32 (value : UInt32) : (Json.ofUInt32 value).asUInt32? = some value := by
  rw [asUInt32?, ofUInt32, asNatBelow?_natCast value.toNat_lt_size, Option.map_some,
    UInt32.ofNat_toNat]

@[simp]
theorem asString?_string (value : String) : (Json.string value).asString? = some value := rfl

@[simp]
theorem asBool?_bool (value : Bool) : (Json.bool value).asBool? = some value := rfl

@[simp]
theorem asStrings?_ofStrings (texts : List String) :
    (Json.ofStrings texts).asStrings? = some texts :=
  mapM_map_eq_some asString? (fun _ => rfl) texts

end Json

namespace StringMap

theorem putEntry_of_fresh {key value : String} {entries : List (String × String)}
    (fresh : key ∉ entries.map Prod.fst) :
    putEntry key value entries = entries ++ [(key, value)] := by
  induction entries with
  | nil => rfl
  | cons entry rest ih =>
    rw [List.map_cons, List.mem_cons, not_or] at fresh
    rw [putEntry, if_neg (Ne.symm fresh.1), ih fresh.2, List.cons_append]

theorem entries_foldl_insert (map : StringMap) {later : List (String × String)}
    (distinct : ((map.entries ++ later).map Prod.fst).Nodup) :
    (later.foldl (fun map (key, value) => map.insert key value) map).entries =
      map.entries ++ later := by
  induction later generalizing map with
  | nil => rw [List.foldl_nil, List.append_nil]
  | cons entry later ih =>
    have fresh : entry.1 ∉ map.entries.map Prod.fst := fresh_of_distinct distinct
    have added : (map.insert entry.1 entry.2).entries = map.entries ++ [entry] :=
      putEntry_of_fresh fresh
    have regroup :
        map.entries ++ entry :: later = (map.insert entry.1 entry.2).entries ++ later := by
      rw [added, List.append_assoc, List.singleton_append]
    rw [regroup] at distinct ⊢
    exact ih _ distinct

theorem ofList_entries (map : StringMap) : ofList map.entries = map := by
  have entries : (ofList map.entries).entries = map.entries :=
    entries_foldl_insert ∅ map.distinct
  cases map with
  | mk all distinct => exact StringMap.mk.injEq .. |>.mpr entries

@[simp]
theorem ofJson?_toJson (map : StringMap) : ofJson? map.toJson = some map := by
  rw [toJson, ofJson?, mapM_map_eq_some entryOfJson? (fun _ => rfl), Option.map_some,
    ofList_entries]

end StringMap

@[simp]
theorem LoggingConfig.ofJson?_toJson (config : LoggingConfig) :
    ofJson? config.toJson = some config := by
  simp [ofJson?, toJson, Json.isSection, Json.setting, Json.field?, Json.lookup]

@[simp]
theorem Limits.ofJson?_toJson (limits : Limits) : ofJson? limits.toJson = some limits := by
  simp [ofJson?, toJson, Json.isSection, Json.setting, Json.field?, Json.lookup]

@[simp]
theorem DrainPolicy.ofJson?_toJson (policy : DrainPolicy) :
    ofJson? policy.toJson = some policy := by
  simp [ofJson?, toJson, Json.isSection, Json.setting, Json.field?, Json.lookup]

@[simp]
theorem HeartbeatConfig.ofJson?_toJson (config : HeartbeatConfig) :
    ofJson? config.toJson = some config := by
  simp [ofJson?, toJson, Json.isSection, Json.setting, Json.field?, Json.lookup]

@[simp]
theorem ConsoleConfig.ofJson?_toJson (config : ConsoleConfig) :
    ofJson? config.toJson = some config := by
  simp [ofJson?, toJson, Json.isSection, Json.setting, Json.field?, Json.lookup]

@[simp]
theorem ChannelsConfig.ofJson?_toJson (config : ChannelsConfig) :
    ofJson? config.toJson = some config := by
  simp [ofJson?, toJson, Json.isSection, Json.setting, Json.field?, Json.lookup]

/-- The tree of a configuration describes that configuration. -/
theorem Config.ofJson?_toJson (config : Config) : ofJson? config.toJson = some config := by
  simp [ofJson?, toJson, Json.isSection, Json.setting, Json.field?, Json.lookup]

/-! ## All layers -/

theorem Config.load_of_fileTree {file : ConfigFile} {tree : Json}
    {environment : List (String × String)} {config : Config} (laid : fileTree file = .ok tree)
    (described : ofJson? (overriddenTree tree environment) = some config) :
    load file environment = config.validate := by
  simp only [load, laid, described]

/-- A saved file without any overrides is the configuration again, which is then checked. -/
theorem Config.load_fileText (config : Config) :
    load (.text config.fileText) [] = config.validate := by
  have plain : Json.Plain Json.maxDepth config.toJson := config.plain_toJson 123
  have text : Json.read config.fileText = some config.toJson := Json.read_pretty plain
  have covers : ({} : Config).toJson.overlay config.toJson = config.toJson := config.covers_default
  have laid : fileTree (.text config.fileText) = .ok config.toJson := by
    simp only [fileTree, text, covers]
  have none : Environment.overrides [] = [] := by
    rw [Environment.overrides, List.filterMap_nil, List.mergeSort_nil]
  have alone : overriddenTree config.toJson [] = config.toJson := by
    rw [overriddenTree, none, List.foldl_nil]
  apply load_of_fileTree laid
  rw [alone, config.ofJson?_toJson]

end AgentBus
