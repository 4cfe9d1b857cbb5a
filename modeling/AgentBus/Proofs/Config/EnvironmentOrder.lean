import AgentBus.Proofs.Config.Variables
import AgentBus.Proofs.Json.Override
import Mathlib.Data.List.Dedup

/-!
# The order of the variables does not matter

The overrides are applied one after another to one tree, and what one of them does can depend on
those before it. They are sorted first, so only repetitions can tell apart two environments that
give the same settings. A repeated override stands right behind the first of its kind, where it
changes nothing (`foldl_dedup`). So a configuration is loaded alike from both
(`Config.load_of_same_given`).
-/

namespace AgentBus

namespace Environment

/-- The tree with one override applied. -/
def apply (tree : Json) (override : List String × String) : Json :=
  tree.overrideAt override.1 (valueTree override.2)

theorem apply_apply (tree : Json) (override : List String × String) :
    apply (apply tree override) override = apply tree override :=
  Json.overrideAt_overrideAt tree override.1 (valueTree override.2)

/-- In a sorted list an override that comes again comes again at once. -/
theorem head_of_mem {first : List String × String} {later : List (List String × String)}
    (sorted : (first :: later).Pairwise (overrideLe · · = true)) (again : first ∈ later) :
    ∃ rest, later = first :: rest := by
  cases later with
  | nil => contradiction
  | cons second rest =>
    rw [List.pairwise_cons, List.pairwise_cons] at sorted
    have upper : overrideLe first second = true := sorted.1 second List.mem_cons_self
    have same : first = second := by
      rcases List.mem_cons.1 again with same | behind
      · exact same
      · exact overrideLe_antisymm upper (sorted.2.1 first behind)
    exact ⟨rest, by rw [same]⟩

theorem foldl_dedup {overrides : List (List String × String)}
    (sorted : overrides.Pairwise (overrideLe · · = true)) (tree : Json) :
    overrides.dedup.foldl apply tree = overrides.foldl apply tree := by
  induction overrides generalizing tree with
  | nil => rfl
  | cons first later ih =>
    have behind := (List.pairwise_cons.1 sorted).2
    by_cases again : first ∈ later
    · -- The copy that is left out stands right before the one that stays
      rw [List.dedup_cons_of_mem again, ih behind]
      obtain ⟨rest, rfl⟩ := head_of_mem sorted again
      rw [List.foldl_cons, List.foldl_cons, List.foldl_cons, apply_apply]
    · rw [List.dedup_cons_of_notMem again, List.foldl_cons, List.foldl_cons, ih behind]

variable {environment other : List (String × String)}

theorem dedup_overrides_eq (same : ∀ path raw, Given environment path raw ↔ Given other path raw) :
    (overrides environment).dedup = (overrides other).dedup := by
  have sorted (environment : List (String × String)) :
      (overrides environment).dedup.Pairwise (overrideLe · · = true) :=
    (pairwise_overrides environment).sublist (List.dedup_sublist _)
  have members : (overrides environment).dedup.Perm (overrides other).dedup := by
    apply (List.perm_ext_iff_of_nodup (List.nodup_dedup _) (List.nodup_dedup _)).2
    rintro ⟨path, raw⟩
    rw [List.mem_dedup, List.mem_dedup, mem_overrides, mem_overrides, same]
  exact members.eq_of_pairwise (fun _ _ _ _ => overrideLe_antisymm) (sorted environment)
    (sorted other)

end Environment

open Environment (Given apply overrides path?)

theorem Config.overriddenTree_eq (tree : Json) (environment : List (String × String)) :
    overriddenTree tree environment = (overrides environment).foldl apply tree := rfl

theorem Config.overriddenTree_of_same_given {environment other : List (String × String)}
    (same : ∀ path raw, Given environment path raw ↔ Given other path raw) (tree : Json) :
    overriddenTree tree environment = overriddenTree tree other := by
  rw [overriddenTree_eq, overriddenTree_eq,
    ← Environment.foldl_dedup (Environment.pairwise_overrides environment),
    ← Environment.foldl_dedup (Environment.pairwise_overrides other),
    Environment.dedup_overrides_eq same]

/-- What is loaded depends only on which values the variables give which settings: neither on their
order nor on repetitions nor on how a name is spelled. -/
theorem Config.load_of_same_given {environment other : List (String × String)}
    (same : ∀ path raw, Given environment path raw ↔ Given other path raw) (file : ConfigFile) :
    load file environment = load file other := by
  simp only [load, overriddenTree_of_same_given same]

/-- Two settings in the other order, one of them under another spelling, the other one twice. -/
theorem Config.load_respelled :
    (∀ path raw,
      Given [("AGH__BUS__DRAIN_IDLE_TICK_MS", "5"), ("AGH__HEARTBEAT__ENABLED", "TRUE")] path raw ↔
        Given [("AGH__heartbeat____ENABLED", "TRUE"), ("HOME", "/root"),
          ("AGH__Bus__Drain_Idle_Tick_Ms", "5"), ("AGH__HEARTBEAT__ENABLED", "TRUE")] path raw) ∧
    ∀ file,
      load file [("AGH__BUS__DRAIN_IDLE_TICK_MS", "5"), ("AGH__HEARTBEAT__ENABLED", "TRUE")] =
        load file [("AGH__heartbeat____ENABLED", "TRUE"), ("HOME", "/root"),
          ("AGH__Bus__Drain_Idle_Tick_Ms", "5"), ("AGH__HEARTBEAT__ENABLED", "TRUE")] := by
  have same : ∀ path raw,
      Given [("AGH__BUS__DRAIN_IDLE_TICK_MS", "5"), ("AGH__HEARTBEAT__ENABLED", "TRUE")] path raw ↔
        Given [("AGH__heartbeat____ENABLED", "TRUE"), ("HOME", "/root"),
          ("AGH__Bus__Drain_Idle_Tick_Ms", "5"), ("AGH__HEARTBEAT__ENABLED", "TRUE")] path raw := by
    have pause : path? "AGH__BUS__DRAIN_IDLE_TICK_MS" = some ["bus", "drain_idle_tick_ms"] := by
      decide +kernel
    have pauseAgain :
        path? "AGH__Bus__Drain_Idle_Tick_Ms" = some ["bus", "drain_idle_tick_ms"] := by
      decide +kernel
    have beat : path? "AGH__HEARTBEAT__ENABLED" = some ["heartbeat", "enabled"] := by
      decide +kernel
    have beatAgain : path? "AGH__heartbeat____ENABLED" = some ["heartbeat", "enabled"] := by
      decide +kernel
    have unmarked : path? "HOME" = none := by decide +kernel
    intro path raw
    rw [Environment.given_cons, Environment.given_cons, Environment.given_cons,
      Environment.given_cons, Environment.given_cons, Environment.given_cons, pause, pauseAgain,
      beat, beatAgain, unmarked]
    grind
  exact ⟨same, fun file => load_of_same_given same file⟩

end AgentBus
