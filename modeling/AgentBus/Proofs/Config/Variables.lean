import AgentBus.Config.Load

/-!
# What the variables say

A variable names a setting by its name alone: behind the marker stand the keys of the path in any
case, with double underscores between them, of which there may be more than needed (`Names`). The
overrides are the settings that variables give, in ascending order (`mem_overrides`,
`pairwise_overrides`). The order is linear, so the variables that give the same settings have the
same overrides but for repetitions.
-/

namespace AgentBus.Environment

/-! ## Segments -/

/-- There is no double underscore in the text. -/
def Unbroken (cs : List Char) : Prop :=
  ¬ ['_', '_'] <:+: cs

/-- A text and its segments: each of them ends at the first double underscore behind it. -/
inductive Split : List Char → List (List Char) → Prop where
  | last {segment : List Char} (unbroken : Unbroken segment) : Split segment [segment]
  | cut {segment rest : List Char} {later : List (List Char)}
      (first : Unbroken (segment ++ ['_'])) (behind : Split rest later) :
      Split (segment ++ '_' :: '_' :: rest) (segment :: later)

theorem unbroken_cons {c : Char} {cs : List Char} :
    Unbroken (c :: cs) ↔ ¬ (c = '_' ∧ cs.head? = some '_') ∧ Unbroken cs := by
  have here : ['_', '_'] <+: c :: cs ↔ c = '_' ∧ cs.head? = some '_' := by
    cases cs with
    | nil => simp
    | cons d cs => simp [List.cons_prefix_cons, eq_comm]
  rw [Unbroken, Unbroken, List.infix_cons_iff, here, not_or]

theorem unbroken_nil : Unbroken [] := by
  simp [Unbroken]

theorem unbroken_singleton (c : Char) : Unbroken [c] :=
  unbroken_cons.2 ⟨by simp, unbroken_nil⟩

theorem Split.cons {cs : List Char} {all : List (List Char)} (split : Split cs all) {c : Char}
    (apart : ¬ (c = '_' ∧ cs.head? = some '_')) : Split (c :: cs) (consSegment c all) := by
  cases split with
  | last unbroken => exact .last (unbroken_cons.2 ⟨apart, unbroken⟩)
  | @cut segment rest later first behind =>
    have sameHead : (segment ++ ['_']).head? = (segment ++ '_' :: '_' :: rest).head? := by
      cases segment <;> rfl
    have longer : Unbroken ((c :: segment) ++ ['_']) :=
      unbroken_cons.2 ⟨sameHead ▸ apart, first⟩
    exact .cut longer behind

theorem split_segments (cs : List Char) : Split cs (segments cs) := by
  fun_induction segments cs with
  | case1 => exact .last unbroken_nil
  | case2 c => exact .last (unbroken_singleton c)
  | case3 c d rest both ih =>
    obtain ⟨rfl, rfl⟩ := both
    exact @Split.cut [] rest _ (unbroken_singleton '_') ih
  | case4 c d rest apart ih =>
    apply ih.cons
    rwa [List.head?_cons, Option.some.injEq]

theorem segments_of_unbroken {segment : List Char} (unbroken : Unbroken segment) :
    segments segment = [segment] := by
  fun_induction segments segment with
  | case1 => rfl
  | case2 c => rfl
  | case3 c d rest both ih =>
    rw [unbroken_cons, List.head?_cons, Option.some.injEq] at unbroken
    exact absurd both unbroken.1
  | case4 c d rest apart ih =>
    rw [ih (unbroken_cons.1 unbroken).2]
    rfl

theorem segments_cut {segment : List Char} (first : Unbroken (segment ++ ['_']))
    (rest : List Char) :
    segments (segment ++ '_' :: '_' :: rest) = segment :: segments rest := by
  -- The underscore behind the segment keeps its last character from opening an earlier pair
  induction segment with
  | nil => rw [List.nil_append, segments, if_pos ⟨rfl, rfl⟩]
  | cons c segment ih =>
    rw [List.cons_append, unbroken_cons] at first
    have behind := ih first.2
    cases segment with
    | nil =>
      have apart : ¬ (c = '_' ∧ '_' = '_') := fun both => first.1 ⟨both.1, rfl⟩
      rw [List.cons_append, List.nil_append, segments, if_neg apart]
      rw [List.nil_append] at behind
      rw [behind]
      rfl
    | cons d segment =>
      have apart : ¬ (c = '_' ∧ d = '_') := fun both => first.1 ⟨both.1, congrArg some both.2⟩
      rw [List.cons_append, List.cons_append, segments, if_neg apart, ← List.cons_append, behind]
      rfl

/-- The segments of a text are the only way to split it. -/
theorem split_iff {cs : List Char} {all : List (List Char)} :
    Split cs all ↔ segments cs = all := by
  constructor
  · intro split
    induction split with
    | last unbroken => exact segments_of_unbroken unbroken
    | cut first _ ih => rw [segments_cut first, ih]
  · rintro rfl
    exact split_segments cs

/-! ## Names -/

/-- The variable names the setting at the path: its segments behind the marker, without the empty
ones, are the keys of the path in lower case. -/
def Names (name : String) (path : List String) : Prop :=
  path ≠ [] ∧ ∃ rest segments, name.toList = marker.toList ++ rest ∧ Split rest segments ∧
    path = (segments.filter (· ≠ [])).map fun segment => (String.ofList segment).toLower

theorem path?_eq_some {name : String} {path : List String} :
    path? name = some path ↔ Names name path := by
  constructor
  · intro found
    rw [path?] at found
    split at found
    · rename_i marked
      dsimp only at found
      split at found
      · contradiction
      · rename_i some
        cases found
        refine ⟨some, name.toList.drop marker.length, _, ?_, split_segments _, rfl⟩
        rw [← marked, List.take_append_drop]
    · contradiction
  · rintro ⟨some, rest, all, begins, split, rfl⟩
    have size : marker.length = marker.toList.length := String.length_toList.symm
    have marked : name.toList.take marker.length = marker.toList := by
      rw [begins, size, List.take_left]
    have behind : name.toList.drop marker.length = rest := by
      rw [begins, size, List.drop_left]
    rw [path?]
    dsimp only
    rw [if_pos marked, behind, split_iff.1 split, if_neg some]

/-- Some variable gives the setting at the path this value. -/
def Given (environment : List (String × String)) (path : List String) (raw : String) : Prop :=
  ∃ name, (name, raw) ∈ environment ∧ Names name path

variable {environment : List (String × String)}

theorem given_cons {name value raw : String} {path : List String} :
    Given ((name, value) :: environment) path raw ↔
      path? name = some path ∧ value = raw ∨ Given environment path raw := by
  constructor
  · rintro ⟨other, member, named⟩
    rcases List.mem_cons.1 member with same | later
    · cases same
      exact .inl ⟨path?_eq_some.2 named, rfl⟩
    · exact .inr ⟨other, later, named⟩
  · rintro (⟨named, rfl⟩ | ⟨other, later, named⟩)
    · exact ⟨name, List.mem_cons_self, path?_eq_some.1 named⟩
    · exact ⟨other, List.mem_cons_of_mem _ later, named⟩

theorem overrides_eq (environment : List (String × String)) :
    overrides environment =
      (environment.filterMap fun entry =>
        (path? entry.1).map fun path => (path, entry.2)).mergeSort overrideLe := rfl

theorem mem_overrides {path : List String} {raw : String} :
    (path, raw) ∈ overrides environment ↔ Given environment path raw := by
  rw [overrides_eq, List.mem_mergeSort, List.mem_filterMap]
  constructor
  · rintro ⟨⟨name, value⟩, member, named⟩
    obtain ⟨path, found, same⟩ := Option.map_eq_some_iff.1 named
    cases same
    exact ⟨name, member, path?_eq_some.1 found⟩
  · rintro ⟨name, member, named⟩
    have found := path?_eq_some.2 named
    exact ⟨(name, raw), member, Option.map_eq_some_iff.2 ⟨path, found, rfl⟩⟩

/-! ## The order of overrides -/

section Order

/-- How two overrides compare: by path, and for one path by value. -/
def order : List String × String → List String × String → Ordering :=
  compareLex (compareOn Prod.fst) (compareOn Prod.snd)

theorem overrideLe_eq (a b : List String × String) : overrideLe a b = (order a b).isLE := by
  rw [overrideLe, order, compareLex, compareOn, compareOn]
  cases compare a.1 b.1 <;> rfl

instance : Std.TransCmp order :=
  inferInstanceAs (Std.TransCmp (compareLex (compareOn Prod.fst) (compareOn Prod.snd)))

variable {a b c : List String × String}

theorem overrideLe_trans (first : overrideLe a b = true) (second : overrideLe b c = true) :
    overrideLe a c = true := by
  rw [overrideLe_eq] at *
  exact Std.TransCmp.isLE_trans first second

theorem overrideLe_total (a b : List String × String) :
    (overrideLe a b || overrideLe b a) = true := by
  have swap : order b a = (order a b).swap := Std.OrientedCmp.eq_swap
  rw [overrideLe_eq, overrideLe_eq, swap]
  cases order a b <;> rfl

theorem overrideLe_antisymm (first : overrideLe a b = true) (second : overrideLe b a = true) :
    a = b := by
  rw [overrideLe_eq] at first second
  have equal : order a b = .eq := Std.OrientedCmp.isLE_antisymm first second
  obtain ⟨paths, values⟩ := compareLex_eq_eq.1 equal
  exact Prod.ext (Std.LawfulEqCmp.eq_of_compare paths) (Std.LawfulEqCmp.eq_of_compare values)

end Order

theorem pairwise_overrides (environment : List (String × String)) :
    (overrides environment).Pairwise (overrideLe · · = true) := by
  rw [overrides]
  exact @List.pairwise_mergeSort _ overrideLe (fun _ _ _ => overrideLe_trans) overrideLe_total _

end AgentBus.Environment
