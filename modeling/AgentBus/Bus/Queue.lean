/-!
# Queues

First in, first out. What has come last is kept in a list of its own, the latest first, so that it
costs the same to add to a short queue and to a long one. Nothing outside looks at the two lists:
what a queue holds is `Queue.toList`, the oldest first, and the lemmas say what becomes of that.
-/

namespace AgentBus

/-- A queue, as the list of its oldest entries and the list of the others, which is backwards. -/
structure Queue (α : Type) where
  front : List α := []
  back : List α := []
  deriving DecidableEq

namespace Queue

variable {α : Type}

/-- The entries, oldest first. -/
def toList (queue : Queue α) : List α :=
  queue.front ++ queue.back.reverse

/-- Adds an entry behind all others. -/
def push (queue : Queue α) (entry : α) : Queue α :=
  { queue with back := entry :: queue.back }

/-- Takes the oldest entry out. -/
def pop? (queue : Queue α) : Option (α × Queue α) :=
  match queue.front with
  | entry :: rest => some (entry, { queue with front := rest })
  | [] =>
    match queue.back.reverse with
    | [] => none
    | entry :: rest => some (entry, { front := rest })

@[simp] theorem toList_empty : ({} : Queue α).toList = [] := rfl

@[simp] theorem toList_push (queue : Queue α) (entry : α) :
    (queue.push entry).toList = queue.toList ++ [entry] := by
  simp [push, toList]

theorem pop?_eq_none_iff (queue : Queue α) : queue.pop? = none ↔ queue.toList = [] := by
  obtain ⟨front, back⟩ := queue
  cases front with
  | cons entry rest => simp [pop?, toList]
  | nil => cases h : back.reverse <;> simp_all [pop?, toList]

/-- The entry that is taken out is the head of the list, and the rest of it stays. -/
theorem toList_of_pop?_eq_some {queue rest : Queue α} {entry : α}
    (h : queue.pop? = some (entry, rest)) : queue.toList = entry :: rest.toList := by
  obtain ⟨front, back⟩ := queue
  cases front with
  | cons first others =>
    obtain ⟨rfl, rfl⟩ : first = entry ∧ { front := others, back } = rest := by
      simpa [pop?] using h
    rfl
  | nil =>
    cases h' : back.reverse with
    | nil => simp_all [pop?]
    | cons first others =>
      obtain ⟨rfl, rfl⟩ : first = entry ∧ { front := others } = rest := by
        simpa [pop?, h'] using h
      simp [toList, h']

end Queue

end AgentBus
