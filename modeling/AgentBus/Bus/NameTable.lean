/-!
# Name tables

A name table holds one entry for each of some names, in the order of the names.
-/

namespace AgentBus

/-- Entries by name, in the order of the names. -/
abbrev NameTable (α : Type) := List (String × α)

namespace NameTable

variable {α : Type}

/-- Sets the entry of a name. -/
def insert (name : String) (value : α) : NameTable α → NameTable α
  | [] => [(name, value)]
  | (other, old) :: rest =>
    if name < other then (name, value) :: (other, old) :: rest
    else if name = other then (name, value) :: rest
    else (other, old) :: insert name value rest

/-- The entry of a name. -/
def find? (table : NameTable α) (name : String) : Option α :=
  (List.find? (fun entry => entry.1 = name) table).map Prod.snd

/-- The table without a name. -/
def erase (table : NameTable α) (name : String) : NameTable α :=
  table.filter fun entry => entry.1 ≠ name

/-- The table without the entries of a value. -/
def eraseValue [DecidableEq α] (table : NameTable α) (value : α) : NameTable α :=
  table.filter fun entry => entry.2 ≠ value

def names (table : NameTable α) : List String :=
  table.map Prod.fst

end NameTable

end AgentBus
