import AgentBus.Proofs.Json.Entries
import AgentBus.Proofs.Json.Scanning

/-!
# Written JSON is read back

The tokens of a plain value are put together to that value again, wherever it stands: while some
arrays and objects are open, what follows goes on behind the value (`assemble_tokens`). So the
pretty text of a plain value that is nested at most 127 deep is read as the value (`read_pretty`).
-/

namespace AgentBus

theorem fresh_of_distinct {α : Type} {entry : String × α} {before after : List (String × α)}
    (distinct : ((before ++ entry :: after).map Prod.fst).Nodup) :
    entry.1 ∉ before.map Prod.fst := by
  intro member
  rw [List.map_append, List.map_cons, List.nodup_append] at distinct
  exact distinct.2.2 entry.1 member entry.1 List.mem_cons_self rfl

namespace Json

theorem intercalate_eq_flatMap {α : Type} (separator : α) (first : List α)
    (later : List (List α)) :
    [separator].intercalate (first :: later) = first ++ later.flatMap (separator :: ·) := by
  induction later generalizing first with
  | nil => rw [List.intercalate_singleton, List.flatMap_nil, List.append_nil]
  | cons second later ih =>
    rw [List.intercalate_cons_cons, ih, List.append_assoc, List.flatMap_cons]
    rfl

section

variable {depth : Nat} {stack : List Pending} {value : Json}

/-! ## How a value begins -/

theorem tokens_ne_closeArray (item : Json) (rest after : List Token) :
    tokens item ++ rest ≠ .closeArray :: after := by
  cases item with
  | null => nofun
  | bool value => nofun
  | number value => nofun
  | string value => nofun
  | array items => nofun
  | object entries => nofun

/-- What begins like an entry is a string with a colon behind it. -/
theorem colon_of_tokens {item : Json} {rest after : List Token} {key : String}
    (entry : tokens item ++ rest = .string key :: .colon :: after) : rest = .colon :: after := by
  cases item with
  | string value =>
    rw [tokens, List.singleton_append] at entry
    exact (List.cons.inj entry).2
  | null => cases entry
  | bool value => cases entry
  | number value => cases entry
  | array items => cases entry
  | object entries => cases entry

theorem assemble_openArray (item : Json) (rest : List Token) (room : stack.length < maxDepth) :
    assemble stack (.openArray :: (tokens item ++ rest)) =
      assemble (.array [] :: stack) (tokens item ++ rest) := by
  rw [assemble, if_pos room]
  exact fun after closed => tokens_ne_closeArray item rest after closed

theorem afterValue_comma {items : List Json} {rest : List Token} (item : Json)
    (noColon : ∀ after, rest ≠ .colon :: after) :
    afterValue (.array items :: stack) value (.comma :: (tokens item ++ rest)) =
      assemble (.array (value :: items) :: stack) (tokens item ++ rest) := by
  rw [afterValue]
  exact fun key after entry => noColon after (colon_of_tokens entry)

/-! ## Behind the first -/

/-- The tokens of the value are put together to it, as long as it may be nested so deep. -/
def Assembles (depth : Nat) (value : Json) : Prop :=
  ∀ (stack : List Pending) (rest : List Token), stack.length + depth ≤ maxDepth →
    assemble stack (tokens value ++ rest) = afterValue stack value rest

theorem afterValue_items {later : List Json} (each : ∀ item ∈ later, Assembles depth item)
    (room : ∀ pending : Pending, (pending :: stack).length + depth ≤ maxDepth)
    (done : List Json) (rest : List Token) :
    afterValue (.array done :: stack) value
        ((later.map tokens).flatMap (.comma :: ·) ++ .closeArray :: rest) =
      afterValue stack (.array (done.reverse ++ value :: later)) rest := by
  induction later generalizing value done with
  | nil =>
    rw [List.map_nil, List.flatMap_nil, List.nil_append, afterValue, List.reverse_cons]
  | cons item later ih =>
    rw [List.forall_mem_cons] at each
    rw [List.map_cons, List.flatMap_cons, List.cons_append, List.cons_append, List.append_assoc,
      afterValue_comma item, each.1 _ _ (room _), ih each.2, List.reverse_cons, List.append_assoc,
      List.singleton_append]
    intro after colon
    cases later with
    | nil => cases colon
    | cons item later => cases colon

theorem afterValue_entries {later : List (String × Json)}
    (each : ∀ entry ∈ later, Assembles depth entry.2)
    (room : ∀ pending : Pending, (pending :: stack).length + depth ≤ maxDepth)
    (done : List (String × Json)) (key : String)
    (distinct : ((done ++ (key, value) :: later).map Prod.fst).Nodup) (rest : List Token) :
    afterValue (.object done key :: stack) value
        ((later.map fun entry => .string entry.1 :: .colon :: tokens entry.2).flatMap
            (.comma :: ·) ++
          .closeObject :: rest) =
      afterValue stack (.object (done ++ (key, value) :: later)) rest := by
  induction later generalizing value done key with
  | nil =>
    rw [List.map_nil, List.flatMap_nil, List.nil_append, afterValue,
      put_of_fresh (fresh_of_distinct distinct)]
  | cons entry later ih =>
    rw [List.forall_mem_cons] at each
    rw [List.map_cons, List.flatMap_cons]
    simp only [List.cons_append, List.append_assoc]
    rw [afterValue, put_of_fresh (fresh_of_distinct distinct), each.1 _ _ (room _), ih each.2]
    · rw [List.append_assoc, List.singleton_append]
    · rw [List.append_assoc, List.singleton_append]
      exact distinct

/-! ## Whole values -/

theorem assemble_tokens (plain : Plain depth value) : Assembles depth value := by
  -- On the value, for all levels that may be open around it
  induction plain with
  | null => exact fun stack rest _ => rfl
  | bool value => exact fun stack rest _ => rfl
  | integer _ _ => exact fun stack rest _ => rfl
  | string value => exact fun stack rest _ => rfl
  | @array depth items _ each =>
    intro stack rest room
    have here : stack.length < maxDepth := by omega
    have inside (pending : Pending) : (pending :: stack).length + depth ≤ maxDepth := by
      rw [List.length_cons]
      omega
    rw [tokens, itemTokens_eq_map]
    cases items with
    | nil =>
      show assemble stack (.openArray :: .closeArray :: rest) = _
      rw [assemble, if_pos here]
    | cons item later =>
      rw [List.forall_mem_cons] at each
      rw [List.map_cons, intercalate_eq_flatMap]
      simp only [List.cons_append, List.append_assoc]
      rw [assemble_openArray item _ here, each.1 _ _ (inside _),
        List.nil_append, afterValue_items each.2 inside]
      rfl
  | @object depth entries distinct _ each =>
    intro stack rest room
    have here : stack.length < maxDepth := by omega
    have inside (pending : Pending) : (pending :: stack).length + depth ≤ maxDepth := by
      rw [List.length_cons]
      omega
    rw [tokens, entryTokens_eq_map]
    cases entries with
    | nil =>
      show assemble stack (.openObject :: .closeObject :: rest) = _
      rw [assemble, if_pos here]
    | cons entry later =>
      rw [List.forall_mem_cons] at each
      rw [List.map_cons, intercalate_eq_flatMap]
      simp only [List.cons_append, List.append_assoc]
      rw [assemble, if_pos here, each.1 _ _ (inside _),
        List.nil_append, afterValue_entries each.2 inside [] entry.1 distinct]
      rfl

end

/-- A text that is cut into the tokens of a plain value is read as that value. -/
theorem read_of_scan {value : Json} (plain : Plain maxDepth value) {text : String}
    (scanned : scan text.toList = some (tokens value)) : read text = some value := by
  have assembled := assemble_tokens plain [] [] (by simp)
  rw [read, scanned, Option.bind_some, ← List.append_nil (tokens value), assembled]
  rfl

/-- The text of a plain value is read as that value. -/
theorem read_pretty {value : Json} (plain : Plain maxDepth value) :
    read value.pretty = some value :=
  read_of_scan plain (scan_pretty plain)

end Json

end AgentBus
