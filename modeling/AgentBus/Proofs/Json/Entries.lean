import AgentBus.Json.Basic

/-!
# Entries of objects

`Json.put` changes what is found under its key and nothing else (`lookup_put_self`,
`lookup_put_of_ne`), and it keeps the keys apart (`nodup_keys_put`). Where its key is there, it
leaves the keys as they are (`keys_put_of_lookup`). A path leads through objects only
(`atPath?_cons_eq_some`).
-/

namespace AgentBus.Json

section

variable {key other : String} {value : Json} {entries : List (String × Json)}

/-! ## Fresh keys -/

theorem lookup_of_fresh (fresh : key ∉ entries.map Prod.fst) : lookup key entries = none := by
  induction entries with
  | nil => rfl
  | cons entry rest ih =>
    rw [List.map_cons, List.mem_cons, not_or] at fresh
    rw [lookup, if_neg (Ne.symm fresh.1), ih fresh.2]

theorem put_of_fresh (fresh : key ∉ entries.map Prod.fst) :
    put key value entries = entries ++ [(key, value)] := by
  induction entries with
  | nil => rfl
  | cons entry rest ih =>
    rw [List.map_cons, List.mem_cons, not_or] at fresh
    rw [put, if_neg (Ne.symm fresh.1), ih fresh.2, List.cons_append]

theorem lookup_append {before after : List (String × Json)}
    (fresh : key ∉ before.map Prod.fst) : lookup key (before ++ after) = lookup key after := by
  induction before with
  | nil => rfl
  | cons entry rest ih =>
    rw [List.map_cons, List.mem_cons, not_or] at fresh
    rw [List.cons_append, lookup, if_neg (Ne.symm fresh.1), ih fresh.2]

theorem put_append {before after : List (String × Json)}
    (fresh : key ∉ before.map Prod.fst) :
    put key value (before ++ after) = before ++ put key value after := by
  induction before with
  | nil => rfl
  | cons entry rest ih =>
    rw [List.map_cons, List.mem_cons, not_or] at fresh
    rw [List.cons_append, put, if_neg (Ne.symm fresh.1), ih fresh.2, List.cons_append]

/-! ## Entries -/

theorem lookup_put_self : lookup key (put key value entries) = some value := by
  induction entries with
  | nil => rw [put, lookup, if_pos rfl]
  | cons entry rest ih =>
    rw [put]
    split
    · next same => rw [lookup, if_pos same]
    · next different => rw [lookup, if_neg different, ih]

theorem lookup_put_of_ne (different : other ≠ key) :
    lookup other (put key value entries) = lookup other entries := by
  induction entries with
  | nil => exact if_neg different.symm
  | cons entry rest ih =>
    rw [put]
    split
    · next same => rw [lookup, lookup, same, if_neg different.symm, if_neg different.symm]
    · next => rw [lookup, lookup, ih]

theorem put_of_lookup (found : lookup key entries = some value) :
    put key value entries = entries := by
  induction entries with
  | nil => contradiction
  | cons entry rest ih =>
    rw [lookup] at found
    rw [put]
    split
    · next same =>
      rw [if_pos same, Option.some.injEq] at found
      rw [← found]
    · next different =>
      rw [if_neg different] at found
      rw [ih found]

theorem put_put (new : Json) : put key new (put key value entries) = put key new entries := by
  induction entries with
  | nil => exact if_pos rfl
  | cons entry rest ih =>
    rw [put, put]
    split
    · next same => rw [put, if_pos same]
    · next different => rw [put, if_neg different, ih]

theorem mem_of_lookup (found : lookup key entries = some value) : (key, value) ∈ entries := by
  induction entries with
  | nil => contradiction
  | cons entry rest ih =>
    rw [lookup] at found
    split at found
    · next same =>
      cases found
      cases same
      exact List.mem_cons_self
    · exact List.mem_cons_of_mem _ (ih found)

theorem lookup_of_mem (keys : (entries.map Prod.fst).Nodup) (member : (key, value) ∈ entries) :
    lookup key entries = some value := by
  induction entries with
  | nil => contradiction
  | cons entry rest ih =>
    rw [List.map_cons, List.nodup_cons] at keys
    rw [lookup]
    rcases List.mem_cons.1 member with rfl | later
    · rw [if_pos rfl]
    · rw [if_neg, ih keys.2 later]
      rintro rfl
      exact keys.1 (List.mem_map.2 ⟨_, later, rfl⟩)

theorem mem_put {entry : String × Json} (member : entry ∈ put key value entries) :
    entry = (key, value) ∨ entry ∈ entries := by
  induction entries with
  | nil => exact .inl (List.mem_singleton.1 member)
  | cons first rest ih =>
    rw [put] at member
    split at member
    · next same =>
      rw [same] at member
      exact (List.mem_cons.1 member).imp_right (List.mem_cons_of_mem _)
    · rcases List.mem_cons.1 member with rfl | later
      · exact .inr List.mem_cons_self
      · exact (ih later).imp_right (List.mem_cons_of_mem _)

theorem nodup_keys_put (keys : (entries.map Prod.fst).Nodup) :
    ((put key value entries).map Prod.fst).Nodup := by
  induction entries with
  | nil => exact List.pairwise_singleton _ key
  | cons first rest ih =>
    rw [List.map_cons, List.nodup_cons] at keys
    rw [put]
    split
    · exact List.nodup_cons.2 keys
    · next different =>
      refine List.nodup_cons.2 ⟨fun again => ?_, ih keys.2⟩
      obtain ⟨entry, member, same⟩ := List.mem_map.1 again
      rcases mem_put member with rfl | there
      · exact different same.symm
      · exact keys.1 (List.mem_map.2 ⟨entry, there, same⟩)

theorem keys_put_of_lookup {old : Json} (found : lookup key entries = some old) :
    (put key value entries).map Prod.fst = entries.map Prod.fst := by
  induction entries with
  | nil => contradiction
  | cons first rest ih =>
    rw [lookup] at found
    rw [put]
    split
    · rfl
    · next different =>
      rw [if_neg different] at found
      rw [List.map_cons, List.map_cons, ih found]

end

/-! ## Paths -/

theorem isObject_iff {tree : Json} :
    tree.isObject = true ↔ ∃ entries, tree = .object entries := by
  cases tree <;> simp [isObject]

theorem atPath?_cons_eq_some {tree value : Json} {key : String} {path : List String} :
    tree.atPath? (key :: path) = some value ↔
      ∃ entries inner, tree = .object entries ∧ lookup key entries = some inner ∧
        inner.atPath? path = some value := by
  rw [atPath?, Option.bind_eq_some_iff]
  constructor
  · rintro ⟨inner, found, reached⟩
    cases tree with
    | object entries => exact ⟨entries, inner, rfl, found, reached⟩
    | _ => contradiction
  · rintro ⟨entries, inner, rfl, found, reached⟩
    exact ⟨inner, found, reached⟩

end AgentBus.Json
