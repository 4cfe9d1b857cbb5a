import AgentBus.Bus.NameTable

/-!
# Looking up in a name table

What is set under a name is found there, and nothing changes under the other names.
-/

namespace AgentBus.NameTable

variable {α : Type}

theorem find?_cons (other name : String) (value : α) (rest : NameTable α) :
    find? ((other, value) :: rest) name = if other = name then some value else rest.find? name := by
  by_cases same : other = name
  · simp [find?, same]
  · simp [find?, same]

theorem find?_insert_self (table : NameTable α) (name : String) (value : α) :
    (table.insert name value).find? name = some value := by
  fun_induction insert name value table with
  | case1 => simp [find?_cons]
  | case2 other old rest below => simp [find?_cons]
  | case3 old rest => simp [find?_cons]
  | case4 other old rest _ ne ih => rw [find?_cons, if_neg (Ne.symm ne), ih]

theorem find?_insert_of_ne {table : NameTable α} {name other : String} (ne : other ≠ name)
    (value : α) : (table.insert name value).find? other = table.find? other := by
  fun_induction insert name value table with
  | case1 => rw [find?_cons, if_neg (Ne.symm ne)]
  | case2 first old rest below => rw [find?_cons, if_neg (Ne.symm ne)]
  | case3 old rest => rw [find?_cons, find?_cons, if_neg (Ne.symm ne), if_neg (Ne.symm ne)]
  | case4 first old rest _ _ ih => rw [find?_cons, find?_cons, ih]

theorem find?_erase_of_ne {table : NameTable α} {name other : String} (ne : other ≠ name) :
    (table.erase name).find? other = table.find? other := by
  rw [find?, find?, erase, List.find?_filter]
  congr 2
  funext entry
  by_cases here : entry.1 = other
  · simp [here, ne]
  · simp [here]

theorem mem_of_find? {table : NameTable α} {name : String} {value : α}
    (found : table.find? name = some value) : (name, value) ∈ table := by
  obtain ⟨⟨other, _⟩, first, rfl⟩ := Option.map_eq_some_iff.1 found
  have same : other = name := by simpa using List.find?_some first
  exact same ▸ List.mem_of_find?_eq_some first

theorem mem_insert {table : NameTable α} {name : String} {value : α} {entry : String × α}
    (member : entry ∈ table.insert name value) : entry = (name, value) ∨ entry ∈ table := by
  fun_induction insert name value table with
  | case1 => simp_all
  | case2 other old rest below => simpa using member
  | case3 old rest => grind
  | case4 other old rest _ _ ih => grind

end AgentBus.NameTable
