import AgentBus.Json.Read
import AgentBus.Proofs.Json.Entries

/-!
# Keys are kept apart

A tree that was read has no key twice in one object, whatever its text says: a later entry takes
the place of an earlier one with the same key (`distinct_of_read`). So a key of such a tree leads to
one value.
-/

namespace AgentBus.Json

/-- No object in the tree has a key twice. -/
inductive Distinct : Json → Prop where
  | null : Distinct .null
  | bool (value : Bool) : Distinct (.bool value)
  | number (value : JsonNumber) : Distinct (.number value)
  | string (value : String) : Distinct (.string value)
  | array {items : List Json} (each : ∀ item ∈ items, Distinct item) : Distinct (.array items)
  | object {entries : List (String × Json)} (keys : (entries.map Prod.fst).Nodup)
      (each : ∀ entry ∈ entries, Distinct entry.2) : Distinct (.object entries)

section

variable {key : String} {value : Json} {entries : List (String × Json)}

theorem Distinct.put (object : Distinct (.object entries)) (inner : Distinct value) :
    Distinct (.object (Json.put key value entries)) := by
  cases object with
  | object keys each =>
    refine .object (nodup_keys_put keys) fun entry member => ?_
    rcases mem_put member with rfl | there
    · exact inner
    · exact each entry there

theorem Distinct.keys (object : Distinct (.object entries)) : (entries.map Prod.fst).Nodup := by
  cases object with
  | object keys each => exact keys

theorem Distinct.of_lookup (object : Distinct (.object entries))
    (found : lookup key entries = some value) : Distinct value := by
  cases object with
  | object keys each => exact each _ (mem_of_lookup found)

end

/-! ## What is read -/

/-- What an open array or object holds so far has no key twice. -/
inductive Pending.Distinct : Pending → Prop where
  | array {items : List Json} (each : ∀ item ∈ items, Json.Distinct item) : Distinct (.array items)
  | object {entries : List (String × Json)} {key : String}
      (sofar : Json.Distinct (.object entries)) : Distinct (.object entries key)

theorem distinct_emptyArray : Distinct (.array []) :=
  .array (List.forall_mem_nil _)

theorem distinct_emptyObject : Distinct (.object []) :=
  .object .nil (List.forall_mem_nil _)

-- The induction is on the tokens. What carries it is that no level that is still open has a key
-- twice: a value that ends goes into the innermost one, where `put` keeps the keys apart.
mutual

theorem distinct_of_assemble {stack : List Pending} {tokens : List Token} {tree : Json}
    (levels : ∀ level ∈ stack, level.Distinct) (read : assemble stack tokens = some tree) :
    Distinct tree := by
  unfold assemble at read
  split at read
  case h_1 => exact distinct_of_afterValue levels .null read
  case h_2 value _ => exact distinct_of_afterValue levels (.bool value) read
  case h_3 value _ => exact distinct_of_afterValue levels (.number value) read
  case h_4 value _ => exact distinct_of_afterValue levels (.string value) read
  case h_5 =>
    split at read
    · exact distinct_of_afterValue levels distinct_emptyArray read
    · contradiction
  case h_6 =>
    split at read
    · exact distinct_of_assemble
        (List.forall_mem_cons.2 ⟨.array (List.forall_mem_nil _), levels⟩) read
    · contradiction
  case h_7 =>
    split at read
    · exact distinct_of_afterValue levels distinct_emptyObject read
    · contradiction
  case h_8 =>
    split at read
    · exact distinct_of_assemble
        (List.forall_mem_cons.2 ⟨.object distinct_emptyObject, levels⟩) read
    · contradiction
  case h_9 => contradiction
termination_by tokens.length

theorem distinct_of_afterValue {stack : List Pending} {value : Json} {tokens : List Token}
    {tree : Json} (levels : ∀ level ∈ stack, level.Distinct) (inner : Distinct value)
    (read : afterValue stack value tokens = some tree) : Distinct tree := by
  unfold afterValue at read
  split at read
  case h_1 =>
    split at read
    · cases read
      exact inner
    · contradiction
  case h_2 =>
    split at read
    · obtain ⟨_ | sofar, outer⟩ := List.forall_mem_cons.1 levels
      exact distinct_of_assemble (List.forall_mem_cons.2 ⟨.object (sofar.put inner), outer⟩) read
    · contradiction
  case h_3 =>
    split at read
    · obtain ⟨each | _, outer⟩ := List.forall_mem_cons.1 levels
      have longer := List.forall_mem_cons.2 ⟨inner, each⟩
      exact distinct_of_assemble (List.forall_mem_cons.2 ⟨.array longer, outer⟩) read
    · contradiction
  case h_4 =>
    split at read
    · obtain ⟨each | _, outer⟩ := List.forall_mem_cons.1 levels
      have all := List.forall_mem_cons.2 ⟨inner, each⟩
      exact distinct_of_afterValue outer
        (.array fun item member => all item (List.mem_reverse.1 member)) read
    · contradiction
  case h_5 =>
    split at read
    · obtain ⟨_ | sofar, outer⟩ := List.forall_mem_cons.1 levels
      exact distinct_of_afterValue outer (sofar.put inner) read
    · contradiction
  case h_6 => contradiction
termination_by tokens.length

end

/-- A tree that was read has no key twice in one object. -/
theorem distinct_of_read {text : String} {tree : Json} (read : Json.read text = some tree) :
    Distinct tree := by
  obtain ⟨tokens, _, assembled⟩ := Option.bind_eq_some_iff.1 read
  exact distinct_of_assemble (List.forall_mem_nil _) assembled

end AgentBus.Json
