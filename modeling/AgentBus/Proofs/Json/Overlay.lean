import AgentBus.Config.Load
import AgentBus.Proofs.Json.Distinct

/-!
# Laying a tree over another

Of two objects that are laid over each other every key has what the upper one says under it, laid
over what the lower one says (`get?_overlay`). So a value at a path of the upper tree is found there
in the result, unless an object meets an object (`atPath?_overlay_of_found`), and where the upper
tree lacks the path, the value of the lower one is left (`atPath?_overlay_of_lacks`). To lay a tree
over another one twice is to do so once (`overlay_overlay`).

Main statement: `overlay_laws`.
-/

namespace AgentBus.Json

theorem leaf_overlay {base : Json} (leaf : base.isObject = false) (value : Json) :
    base.overlay value = value := by
  cases value with
  | object entries =>
    cases base with
    | object defaults => contradiction
    | _ => rfl
  | _ => rfl

/-! ## Entries -/

/-- A value laid over another one, if there is one. -/
def laidOn (old : Option Json) (value : Json) : Json :=
  (old.map (·.overlay value)).getD value

theorem overlayEntries_cons (base : List (String × Json)) (entry : String × Json)
    (rest : List (String × Json)) :
    overlayEntries base (entry :: rest) =
      overlayEntries (put entry.1 (laidOn (lookup entry.1 base) entry.2) base) rest := by
  rw [overlayEntries]
  cases lookup entry.1 base <;> rfl

theorem lookup_overlayEntries {base entries : List (String × Json)}
    (keys : (entries.map Prod.fst).Nodup) (key : String) :
    lookup key (overlayEntries base entries) =
      match lookup key entries with
      | some value => some (laidOn (lookup key base) value)
      | none => lookup key base := by
  induction entries generalizing base with
  | nil => rw [overlayEntries, lookup]
  | cons entry rest ih =>
    rw [List.map_cons, List.nodup_cons] at keys
    rw [overlayEntries_cons, ih keys.2, lookup]
    by_cases here : entry.1 = key
    · -- The key does not come again, so what is put under it now stays
      subst here
      rw [if_pos rfl, lookup_of_fresh keys.1, lookup_put_self]
    · rw [if_neg here, lookup_put_of_ne (Ne.symm here)]

theorem get?_overlay {defaults entries : List (String × Json)}
    (distinct : Distinct (.object entries)) (key : String) :
    ((object defaults).overlay (.object entries)).get? key =
      match lookup key entries with
      | some value => some (laidOn (lookup key defaults) value)
      | none => lookup key defaults :=
  lookup_overlayEntries distinct.keys key

/-! ## Keys -/

theorem distinct_overlayEntries {base entries : List (String × Json)}
    (lower : Distinct (.object base))
    (each : ∀ entry ∈ entries, ∀ old : Option Json, (∀ value, old = some value → Distinct value) →
      Distinct (laidOn old entry.2)) :
    Distinct (.object (overlayEntries base entries)) := by
  induction entries generalizing base with
  | nil =>
    rw [overlayEntries]
    exact lower
  | cons entry rest ih =>
    obtain ⟨first, others⟩ := List.forall_mem_cons.1 each
    rw [overlayEntries_cons]
    exact ih (lower.put (first _ fun value found => lower.of_lookup found)) others

/-- No key comes twice in the result. -/
theorem distinct_overlay {base file : Json} (upper : file.Distinct) (lower : base.Distinct) :
    (base.overlay file).Distinct := by
  induction upper generalizing base with
  | @object entries keys each ih =>
    cases isObject : base.isObject with
    | false =>
      rw [leaf_overlay isObject]
      exact .object keys each
    | true =>
      obtain ⟨defaults, rfl⟩ := isObject_iff.1 isObject
      refine distinct_overlayEntries lower fun entry member old below => ?_
      cases old with
      | none => exact each entry member
      | some value => exact ih entry member (below value rfl)
  | null => exact .null
  | bool value => exact .bool value
  | number value => exact .number value
  | string value => exact .string value
  | array each => exact .array each

/-! ## Paths -/

theorem atPath?_overlay_of_found {file : Json} (distinct : file.Distinct) {path : List String}
    {value : Json} (found : file.atPath? path = some value) {base : Json}
    (replaces : ∀ old, base.atPath? path = some old → old.overlay value = value) :
    (base.overlay file).atPath? path = some value := by
  induction path generalizing base file with
  | nil =>
    cases found
    rw [replaces base rfl]
    rfl
  | cons key path ih =>
    obtain ⟨entries, inner, rfl, entry, reached⟩ := atPath?_cons_eq_some.1 found
    cases isObject : base.isObject with
    | false => rw [leaf_overlay isObject, found]
    | true =>
      obtain ⟨defaults, rfl⟩ := isObject_iff.1 isObject
      rw [atPath?, get?_overlay distinct, entry, Option.bind_some]
      cases old : lookup key defaults with
      | none => exact reached
      | some below =>
        apply ih (distinct.of_lookup entry) reached
        intro last met
        apply replaces
        rw [atPath?, get?, old, Option.bind_some, met]

/-- On the path through the tree some object does not have the next key. -/
inductive Lacks : Json → List String → Prop where
  | here {entries : List (String × Json)} {key : String} (path : List String)
      (missing : lookup key entries = none) : Lacks (.object entries) (key :: path)
  | under {entries : List (String × Json)} {key : String} {path : List String} {inner : Json}
      (entry : lookup key entries = some inner) (deeper : Lacks inner path) :
      Lacks (.object entries) (key :: path)

theorem atPath?_overlay_of_lacks {file : Json} (distinct : file.Distinct) {path : List String}
    (lacks : Lacks file path) {base old : Json} (found : base.atPath? path = some old) :
    (base.overlay file).atPath? path = some old := by
  induction lacks generalizing base with
  | here path missing =>
    obtain ⟨defaults, below, rfl, entry, reached⟩ := atPath?_cons_eq_some.1 found
    rw [atPath?, get?_overlay distinct, missing, entry, Option.bind_some, reached]
  | under upper deeper ih =>
    obtain ⟨defaults, below, rfl, entry, reached⟩ := atPath?_cons_eq_some.1 found
    rw [atPath?, get?_overlay distinct, upper, entry, Option.bind_some]
    exact ih (distinct.of_lookup upper) reached

/-- Where only objects are met on the way and no value at the end, a key is missing. -/
theorem lacks_of_objects {file : Json} {path : List String}
    (objects : ∀ count < path.length, ∀ value, file.atPath? (path.take count) = some value →
      value.isObject = true)
    (nothing : file.atPath? path = none) : Lacks file path := by
  induction path generalizing file with
  | nil => contradiction
  | cons key path ih =>
    obtain ⟨entries, rfl⟩ := isObject_iff.1 (objects 0 (Nat.zero_lt_succ _) file rfl)
    cases entry : lookup key entries with
    | none => exact .here path entry
    | some inner =>
      rw [atPath?, get?, entry, Option.bind_some] at nothing
      refine .under entry (ih (fun count short value reached => ?_) nothing)
      apply objects (count + 1) (Nat.succ_lt_succ short) value
      rw [List.take_succ_cons, atPath?, get?, entry, Option.bind_some, reached]

/-! ## Twice is once -/

/-- Nothing changes where each value takes what is laid over it already. -/
theorem overlayEntries_of_settled {base entries : List (String × Json)}
    (settled : ∀ entry ∈ entries,
      ∃ value, lookup entry.1 base = some value ∧ value.overlay entry.2 = value) :
    overlayEntries base entries = base := by
  induction entries with
  | nil => rw [overlayEntries]
  | cons entry rest ih =>
    obtain ⟨⟨value, found, same⟩, others⟩ := List.forall_mem_cons.1 settled
    rw [overlayEntries_cons, found, laidOn, Option.map_some, Option.getD_some, same,
      put_of_lookup found]
    exact ih others

theorem overlay_overlay {file : Json} (distinct : file.Distinct) (base : Json) :
    (base.overlay file).overlay file = base.overlay file := by
  induction distinct generalizing base with
  | @object entries keys each ih =>
    -- Whatever stood under a key, what stands there now takes the upper value for what it is
    have laid (old : Option Json) (entry : String × Json) (member : entry ∈ entries) :
        (laidOn old entry.2).overlay entry.2 = laidOn old entry.2 := by
      cases old with
      | some value => exact ih entry member value
      | none =>
        have same := ih entry member .null
        have replaced : null.overlay entry.2 = entry.2 := leaf_overlay rfl entry.2
        rwa [replaced] at same
    cases isObject : base.isObject with
    | false =>
      rw [leaf_overlay isObject]
      refine congrArg object (overlayEntries_of_settled fun entry member => ?_)
      exact ⟨entry.2, lookup_of_mem keys member, laid none entry member⟩
    | true =>
      obtain ⟨defaults, rfl⟩ := isObject_iff.1 isObject
      refine congrArg object (overlayEntries_of_settled fun entry member => ?_)
      refine ⟨laidOn (lookup entry.1 defaults) entry.2, ?_, laid _ entry member⟩
      rw [lookup_overlayEntries keys, lookup_of_mem keys member]
  | _ => rfl

/-! ## Main statement -/

/-- A value of the upper tree that is no object is found in the result. A value of the lower tree is
left where the upper one lacks its path. To lay a tree over twice is to do so once, and no key comes
twice in the result. -/
theorem overlay_laws {base file : Json} (lower : base.Distinct) (upper : file.Distinct) :
    (∀ path value, file.atPath? path = some value → value.isObject = false →
      (base.overlay file).atPath? path = some value) ∧
    (∀ path value, base.atPath? path = some value → Lacks file path →
      (base.overlay file).atPath? path = some value) ∧
    (base.overlay file).overlay file = base.overlay file ∧
    (base.overlay file).Distinct := by
  refine ⟨fun path value found leaf => ?_, fun path value found lacks => ?_,
    overlay_overlay upper base, distinct_overlay upper lower⟩
  · refine atPath?_overlay_of_found upper found fun old _ => ?_
    cases value with
    | object entries => contradiction
    | _ => rfl
  · exact atPath?_overlay_of_lacks upper lacks found

/-- The upper tree puts a leaf in the place of an object, and says nothing about the key beside
it. -/
theorem overlay_laws_beside :
    let base : Json := .object [("a", .object [("b", .object [("c", .null)]), ("d", .bool false)])]
    let file : Json := .object [("a", .object [("b", .bool true)])]
    base.Distinct ∧ file.Distinct ∧
      (base.overlay file).atPath? ["a", "b"] = some (.bool true) ∧
      (base.overlay file).atPath? ["a", "d"] = some (.bool false) ∧
      (base.overlay file).overlay file = base.overlay file := by
  intro base file
  have single {key : String} {value : Json} (inner : Distinct value) :
      Distinct (.object [(key, value)]) :=
    distinct_emptyObject.put inner
  have upper : file.Distinct := single (single (.bool true))
  have beside : Distinct (.object [("b", .object [("c", .null)]), ("d", .bool false)]) := by
    refine .object (by decide) ?_
    exact List.forall_mem_cons.2 ⟨single .null, List.forall_mem_singleton.2 (.bool false)⟩
  have lower : base.Distinct := single beside
  obtain ⟨found, left, twice, -⟩ := overlay_laws lower upper
  exact ⟨lower, upper, found ["a", "b"] _ rfl rfl,
    left ["a", "d"] _ rfl (.under rfl (.here [] rfl)), twice⟩

end AgentBus.Json
