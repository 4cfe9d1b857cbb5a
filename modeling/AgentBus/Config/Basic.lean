import AgentBus.Protocol.Command

/-!
# The configuration

`Config` holds every setting of the agent with its default. Numbers have the width in which they
are stored, so a configuration can always be written down and read back.
-/

namespace AgentBus

/-- A map from strings to strings: no key comes twice. -/
structure StringMap where
  entries : List (String × String)
  distinct : (entries.map Prod.fst).Nodup
  deriving DecidableEq

namespace StringMap

instance : EmptyCollection StringMap := ⟨⟨[], .nil⟩⟩

/-- The entries with a value under a key: in place if the key is there, at the end if not. -/
def putEntry (key value : String) : List (String × String) → List (String × String)
  | [] => [(key, value)]
  | (k, old) :: rest => if k = key then (k, value) :: rest else (k, old) :: putEntry key value rest

theorem mem_keys_putEntry {key value k : String} {entries : List (String × String)}
    (h : k ∈ (putEntry key value entries).map Prod.fst) :
    k = key ∨ k ∈ entries.map Prod.fst := by
  fun_induction putEntry key value entries with
  | case1 => simp_all
  | case2 => simp_all
  | case3 k' old rest _ ih =>
    simp only [List.map_cons, List.mem_cons] at h ⊢
    rcases h with rfl | h
    · exact .inr (.inl rfl)
    · exact (ih h).imp_right .inr

theorem nodup_keys_putEntry {key value : String} {entries : List (String × String)}
    (h : (entries.map Prod.fst).Nodup) : ((putEntry key value entries).map Prod.fst).Nodup := by
  fun_induction putEntry key value entries with
  | case1 => simp
  | case2 => simpa using h
  | case3 k old rest hne ih =>
    simp only [List.map_cons, List.nodup_cons] at h ⊢
    exact ⟨fun hmem => (mem_keys_putEntry hmem).elim hne h.1, ih h.2⟩

/-- Sets the value under a key. -/
def insert (map : StringMap) (key value : String) : StringMap :=
  ⟨putEntry key value map.entries, nodup_keys_putEntry map.distinct⟩

/-- The map of a list of entries, of which the last one for a key counts. -/
def ofList (entries : List (String × String)) : StringMap :=
  entries.foldl (fun map (key, value) => map.insert key value) ∅

end StringMap

/-- What is logged, and where. -/
structure LoggingConfig where
  level : String := "info"
  format : String := "text"
  dir : String := "logs"
  retentionDays : UInt64 := 7
  overrides : StringMap := ∅
  deriving DecidableEq

/-- How a queue is emptied at shutdown: after so many polls in a row without a message, with a
pause after each, the queue counts as empty. -/
structure DrainPolicy where
  idleIterations : UInt32 := 10
  idleTickMs : UInt64 := 10
  deriving DecidableEq

/-- The periodic heartbeat event. -/
structure HeartbeatConfig where
  enabled : Bool := false
  intervalSeconds : UInt64 := 1800
  deriving DecidableEq

/-- The console channel. An empty list of senders allows everyone. -/
structure ConsoleConfig where
  enabled : Bool := true
  allowFrom : List String := []
  deriving DecidableEq

structure ChannelsConfig where
  console : ConsoleConfig := {}
  deriving DecidableEq

/-- All settings of the agent. -/
structure Config where
  logging : LoggingConfig := {}
  protocol : Limits := {}
  bus : DrainPolicy := {}
  heartbeat : HeartbeatConfig := {}
  channels : ChannelsConfig := {}
  deriving DecidableEq

end AgentBus
