import AgentBus.Config.Load
import AgentBus.Proofs.Json.Entries

/-!
# Overriding a leaf

`Json.overrideAt` goes down the keys of its path. Where it goes through an object, it changes the
value under that one key and no other (`overrideAt_cons`, `get?_overrideAt`). So a leaf gets the new
value from an override at its own path and keeps its value under any other
(`atPath?_overrideAt_of_leaf`), an object stays an object (`isObject_overrideAt`), and to override
twice is to override once (`overrideAt_overrideAt`).

An override succeeds if its path leads to a leaf, and only then (`isSome_override?_iff`). Above its
path every tree is the one that was there with the rest of the path overridden
(`atPath?_overrideAt_append`), and apart from it nothing is changed (`atPath?_overrideAt_of_apart`).

Main statement: `override_leaf_or_nothing`.
-/

namespace AgentBus.Json

/-! ## Steps -/

section

variable {tree value : Json} {key : String} {path : List String} {entries : List (String × Json)}

theorem overrideAt_nil (tree value : Json) :
    tree.overrideAt [] value = if tree.isObject = true then tree else value := by
  rw [overrideAt, override?]
  split <;> rfl

theorem overrideAt_cons_of_leaf (leaf : tree.isObject = false) :
    tree.overrideAt (key :: path) value = tree := by
  cases tree with
  | object entries => contradiction
  | _ => rfl

theorem overrideAt_cons_of_missing (missing : lookup key entries = none) :
    (object entries).overrideAt (key :: path) value = .object entries := by
  rw [overrideAt, override?, missing]
  rfl

/-- An override through a key of an object changes what is under that key. -/
theorem overrideAt_cons {old : Json} (found : lookup key entries = some old) :
    (object entries).overrideAt (key :: path) value =
      .object (put key (old.overrideAt path value) entries) := by
  rw [overrideAt, overrideAt, override?, found]
  dsimp only
  cases old.override? path value with
  | some new => rfl
  | none => rw [Option.map_none, Option.getD_none, Option.getD_none, put_of_lookup found]

theorem overrideAt_object (entries : List (String × Json)) (path : List String) (value : Json) :
    ∃ changed, (object entries).overrideAt path value = .object changed := by
  cases path with
  | nil => exact ⟨entries, rfl⟩
  | cons key path =>
    cases found : lookup key entries with
    | none => exact ⟨entries, overrideAt_cons_of_missing found⟩
    | some old => exact ⟨_, overrideAt_cons found⟩

theorem get?_overrideAt (other : String) :
    ((object entries).overrideAt (key :: path) value).get? other =
      if other = key then (lookup other entries).map (·.overrideAt path value)
      else lookup other entries := by
  cases found : lookup key entries with
  | none =>
    rw [overrideAt_cons_of_missing found, get?]
    split
    · next same => rw [same, found, Option.map_none]
    · next => rfl
  | some old =>
    rw [overrideAt_cons found, get?]
    split
    · next same => rw [same, lookup_put_self, found, Option.map_some]
    · next different => rw [lookup_put_of_ne different]

/-- The same for any tree: one that is no object has nothing under a key, before and after. -/
theorem get?_overrideAt_cons (tree : Json) (other : String) :
    (tree.overrideAt (key :: path) value).get? other =
      if other = key then (tree.get? other).map (·.overrideAt path value) else tree.get? other := by
  cases tree with
  | object entries => exact get?_overrideAt other
  | _ => exact (ite_self none).symm

/-- An override goes through a key if there is something under it, and if it can go on there. -/
theorem isSome_override?_cons :
    (tree.override? (key :: path) value).isSome = true ↔
      ∃ old, tree.get? key = some old ∧ (old.override? path value).isSome = true := by
  cases tree with
  | object entries =>
    rw [override?, get?]
    cases lookup key entries with
    | none => simp
    | some old => simp
  | _ => simp [override?, get?]

end

/-! ## Whole overrides -/

/-- A leaf gets the value of an override at its path, and no other override changes it: one at a
shorter path meets an object, and one at a longer path has no object to go through. -/
theorem atPath?_overrideAt_of_leaf {tree old : Json} {path : List String}
    (found : tree.atPath? path = some old) (leaf : old.isObject = false) (other : List String)
    (value : Json) :
    (tree.overrideAt other value).atPath? path = some (if other = path then value else old) := by
  induction path generalizing tree other with
  | nil =>
    cases found
    cases other with
    | nil => rw [overrideAt_nil, leaf]; rfl
    | cons key other => rw [overrideAt_cons_of_leaf leaf, if_neg (List.cons_ne_nil _ _)]; rfl
  | cons key path ih =>
    obtain ⟨entries, inner, rfl, entry, reached⟩ := atPath?_cons_eq_some.1 found
    cases other with
    | nil =>
      -- The path is shorter, and there is an object at its end
      rw [if_neg (List.cons_ne_nil _ _).symm]
      exact found
    | cons first other =>
      rw [atPath?, get?_overrideAt]
      split
      · next same =>
        rw [entry, Option.map_some, Option.bind_some, ih reached other]
        simp only [List.cons.injEq, same, true_and]
      · next different =>
        have apart : first :: other ≠ key :: path :=
          fun same => different (List.cons.inj same).1.symm
        rw [entry, Option.bind_some, reached, if_neg apart]

/-- An object stays one: an override only changes what is in it. -/
theorem isObject_overrideAt {tree old : Json} {path : List String}
    (found : tree.atPath? path = some old) (inner : old.isObject = true) (other : List String)
    (value : Json) :
    ∃ new, (tree.overrideAt other value).atPath? path = some new ∧ new.isObject = true := by
  induction path generalizing tree other with
  | nil =>
    cases found
    obtain ⟨entries, rfl⟩ := isObject_iff.1 inner
    obtain ⟨changed, same⟩ := overrideAt_object entries other value
    exact ⟨_, rfl, isObject_iff.2 ⟨changed, same⟩⟩
  | cons key path ih =>
    obtain ⟨entries, next, rfl, entry, reached⟩ := atPath?_cons_eq_some.1 found
    cases other with
    | nil => exact ⟨old, found, inner⟩
    | cons first other =>
      rw [atPath?, get?_overrideAt]
      split
      · rw [entry, Option.map_some, Option.bind_some]
        exact ih reached other
      · rw [entry, Option.bind_some]
        exact ⟨old, reached, inner⟩

/-- The second of two equal overrides changes nothing: either it puts the same value there again,
or the first one has put an object there. -/
theorem overrideAt_overrideAt (tree : Json) (path : List String) (value : Json) :
    (tree.overrideAt path value).overrideAt path value = tree.overrideAt path value := by
  induction path generalizing tree with
  | nil =>
    rw [overrideAt_nil tree, overrideAt_nil]
    split
    · rfl
    · rw [ite_self]
  | cons key path ih =>
    cases leaf : tree.isObject with
    | false => rw [overrideAt_cons_of_leaf leaf, overrideAt_cons_of_leaf leaf]
    | true =>
      obtain ⟨entries, rfl⟩ := isObject_iff.1 leaf
      cases found : lookup key entries with
      | none => rw [overrideAt_cons_of_missing found, overrideAt_cons_of_missing found]
      | some old => rw [overrideAt_cons found, overrideAt_cons lookup_put_self, ih, put_put]

/-! ## What an override leaves alone -/

section

variable {tree value : Json} {key : String} {path other : List String}

theorem isSome_override?_iff :
    (tree.override? path value).isSome = true ↔
      ∃ old, tree.atPath? path = some old ∧ old.isObject = false := by
  induction path generalizing tree with
  | nil =>
    rw [override?, atPath?]
    cases leaf : tree.isObject <;> simp [leaf]
  | cons key path ih =>
    simp only [isSome_override?_cons, ih, atPath?, Option.bind_eq_some_iff]
    constructor
    · rintro ⟨inner, entry, old, reached, leaf⟩
      exact ⟨old, ⟨inner, entry, reached⟩, leaf⟩
    · rintro ⟨old, ⟨inner, entry, reached⟩, leaf⟩
      exact ⟨inner, entry, old, reached, leaf⟩

/-- At the beginning of the path stands what stood there, with the rest of the path overridden. -/
theorem atPath?_overrideAt_append (rest : List String) :
    (tree.overrideAt (other ++ rest) value).atPath? other =
      (tree.atPath? other).map (·.overrideAt rest value) := by
  induction other generalizing tree with
  | nil => rfl
  | cons key other ih =>
    rw [List.cons_append, atPath?, get?_overrideAt_cons, if_pos rfl, atPath?]
    cases tree.get? key with
    | none => rfl
    | some inner => exact ih

theorem atPath?_overrideAt_of_apart (notBelow : ¬ path <+: other) (notAbove : ¬ other <+: path) :
    (tree.overrideAt path value).atPath? other = tree.atPath? other := by
  induction path generalizing tree other with
  | nil => exact absurd List.nil_prefix notBelow
  | cons key path ih =>
    cases other with
    | nil => exact absurd List.nil_prefix notAbove
    | cons first other =>
      rw [atPath?, get?_overrideAt_cons, atPath?]
      split
      · next same =>
        -- The paths part further down
        subst same
        rw [List.cons_prefix_cons, not_and] at notBelow notAbove
        cases tree.get? first with
        | none => rfl
        | some inner => exact ih (notBelow rfl) (notAbove rfl)
      · rfl

/-- The keys of an object, in the order of its entries. -/
def keys? : Json → Option (List String)
  | .object entries => some (entries.map Prod.fst)
  | _ => none

theorem keys?_overrideAt_cons : (tree.overrideAt (key :: path) value).keys? = tree.keys? := by
  cases tree with
  | object entries =>
    cases found : lookup key entries with
    | none => rw [overrideAt_cons_of_missing found]
    | some old => rw [overrideAt_cons found, keys?, keys_put_of_lookup found, keys?]
  | _ => rfl

end

/-- Two trees that differ at most in what they have at a path: apart from it they are the same, and
every object that is not at it or below it has the same keys in both. -/
structure SameOutside (path : List String) (tree after : Json) : Prop where
  apart : ∀ other, ¬ path <+: other → ¬ other <+: path →
    after.atPath? other = tree.atPath? other
  keys : ∀ other, ¬ path <+: other →
    (after.atPath? other).bind keys? = (tree.atPath? other).bind keys?

theorem sameOutside_overrideAt (tree : Json) (path : List String) (value : Json) :
    SameOutside path tree (tree.overrideAt path value) := by
  refine ⟨fun _ => atPath?_overrideAt_of_apart, fun other notBelow => ?_⟩
  by_cases above : other <+: path
  · obtain ⟨rest, rfl⟩ := above
    cases rest with
    | nil =>
      rw [List.append_nil] at notBelow
      exact absurd List.prefix_rfl notBelow
    | cons key rest =>
      -- What is overridden here is under a key, so the keys stay
      rw [atPath?_overrideAt_append]
      cases tree.atPath? other with
      | none => rfl
      | some inner => exact keys?_overrideAt_cons
  · rw [atPath?_overrideAt_of_apart notBelow above]

/-! ## Main statement -/

/-- An override changes one leaf or nothing. It succeeds if its path leads through nested objects to
something that is no object, and only then. The tree then has the new value there, and outside of it
what it had. If the override fails, the tree is as it was. -/
theorem override_leaf_or_nothing (tree : Json) (path : List String) (value : Json) :
    ((tree.override? path value).isSome = true ↔
      ∃ old, tree.atPath? path = some old ∧ old.isObject = false) ∧
    ((tree.override? path value).isSome = true →
      (tree.overrideAt path value).atPath? path = some value ∧
        SameOutside path tree (tree.overrideAt path value)) ∧
    ((tree.override? path value).isSome = false → tree.overrideAt path value = tree) := by
  refine ⟨isSome_override?_iff, fun replaced => ?_, fun refused => ?_⟩
  · obtain ⟨old, found, leaf⟩ := isSome_override?_iff.1 replaced
    have there := atPath?_overrideAt_of_leaf found leaf path value
    rw [if_pos rfl] at there
    exact ⟨there, sameOutside_overrideAt tree path value⟩
  · rw [Option.isSome_eq_false_iff, Option.isNone_iff_eq_none] at refused
    rw [overrideAt, refused, Option.getD_none]

/-- A list takes the place of a number. The number beside it and the keys of the section stay, and
the section itself cannot be overridden. -/
theorem override_leaf_or_nothing_drain :
    let tree : Json := .object
      [("bus", .object
        [("drain_idle_iterations", .ofUInt32 10), ("drain_idle_tick_ms", .ofUInt64 1)])]
    let path := ["bus", "drain_idle_iterations"]
    let after := tree.overrideAt path (.array [.null])
    (tree.override? path (.array [.null])).isSome = true ∧
      after.atPath? path = some (.array [.null]) ∧
      after.atPath? ["bus", "drain_idle_tick_ms"] = some (.ofUInt64 1) ∧
      (after.atPath? ["bus"]).bind keys? = some ["drain_idle_iterations", "drain_idle_tick_ms"] ∧
      tree.overrideAt ["bus"] .null = tree := by
  intro tree path after
  have replaced : (tree.override? path (.array [.null])).isSome = true := rfl
  obtain ⟨there, outside⟩ := (override_leaf_or_nothing tree path (.array [.null])).2.1 replaced
  refine ⟨replaced, there, ?_, ?_, ?_⟩
  · exact outside.apart ["bus", "drain_idle_tick_ms"] (by decide) (by decide)
  · exact outside.keys ["bus"] (by decide)
  · exact (override_leaf_or_nothing tree ["bus"] .null).2.2 rfl

end AgentBus.Json
