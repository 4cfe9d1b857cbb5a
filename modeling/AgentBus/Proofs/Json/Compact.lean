import AgentBus.Proofs.Json.RoundTrip

/-!
# Compact JSON

A plain value that is written without any space is read back too (`read_compact`), and what is
written is one line, whatever its strings hold (`oneLine_compact`).
-/

namespace AgentBus

/-! ## One line -/

/-- Nothing here ends a line. -/
def OneLine (cs : List Char) : Prop :=
  '\n' ∉ cs ∧ '\r' ∉ cs

theorem OneLine.nil : OneLine [] :=
  ⟨List.not_mem_nil, List.not_mem_nil⟩

theorem OneLine.append {cs ds : List Char} (left : OneLine cs) (right : OneLine ds) :
    OneLine (cs ++ ds) :=
  ⟨fun newline => (List.mem_append.mp newline).elim left.1 right.1,
    fun carriage => (List.mem_append.mp carriage).elim left.2 right.2⟩

theorem OneLine.of_noControl {cs : List Char} (plain : NoControl cs) : OneLine cs :=
  ⟨fun newline => Bool.noConfusion ((plain _ newline).symm.trans rfl),
    fun carriage => Bool.noConfusion ((plain _ carriage).symm.trans rfl)⟩

theorem OneLine.flatMap {α : Type} {f : α → List Char} {xs : List α}
    (each : ∀ x ∈ xs, OneLine (f x)) : OneLine (xs.flatMap f) := by
  induction xs with
  | nil => exact .nil
  | cons x xs ih =>
    rw [List.forall_mem_cons] at each
    rw [List.flatMap_cons]
    exact each.1.append (ih each.2)

/-- Texts on one line each, with such a separator between them. -/
theorem OneLine.intercalate {separator : String} {texts : List String}
    (between : OneLine separator.toList) (each : ∀ text ∈ texts, OneLine text.toList) :
    OneLine (separator.intercalate texts).toList := by
  induction texts with
  | nil => exact .nil
  | cons text texts ih =>
    rw [List.forall_mem_cons] at each
    cases texts with
    | nil => exact each.1
    | cons next texts =>
      rw [String.intercalate_cons_cons, String.toList_append, String.toList_append]
      exact (each.1.append between).append (ih each.2)

namespace Json

theorem compactItems_eq_map (items : List Json) : compactItems items = items.map compact := by
  induction items with
  | nil => rfl
  | cons item rest ih => simp [compactItems, ih]

theorem compactEntries_eq_map (entries : List (String × Json)) :
    compactEntries entries =
      entries.map fun entry => stringText entry.1 ++ ":" ++ compact entry.2 := by
  induction entries with
  | nil => rfl
  | cons entry rest ih => simp [compactEntries, ih]

theorem oneLine_escapeChar (c : Char) : OneLine (escapeChar c) := by
  unfold escapeChar
  iterate 7
    split
    · exact ⟨by decide, by decide⟩
  split
  · next control =>
    have high := not_isControl_digitChar (c.toNat / 16) (by omega)
    have low := not_isControl_digitChar (c.toNat % 16) (by omega)
    apply OneLine.of_noControl
    intro d member
    simp only [List.mem_cons, List.not_mem_nil, or_false] at member
    obtain rfl | rfl | rfl | rfl | rfl | rfl := member
    · rfl
    · rfl
    · rfl
    · rfl
    · exact high
    · exact low
  · next noNewline noCarriage _ _ =>
    exact ⟨fun newline => noNewline (List.mem_singleton.mp newline).symm,
      fun carriage => noCarriage (List.mem_singleton.mp carriage).symm⟩

theorem oneLine_stringText (text : String) : OneLine (stringText text).toList := by
  have quotes : OneLine ['"'] := ⟨by decide, by decide⟩
  rw [stringText, String.toList_ofList]
  exact quotes.append ((OneLine.flatMap fun c _ => oneLine_escapeChar c).append quotes)

/-- A plain value is written on one line. -/
theorem oneLine_compact {depth : Nat} {value : Json} (plain : Plain depth value) :
    OneLine value.compact.toList := by
  have comma : OneLine ",".toList := ⟨by decide, by decide⟩
  induction plain with
  | null => exact ⟨by decide, by decide⟩
  | bool value => cases value <;> exact ⟨by decide, by decide⟩
  | @integer depth value _ _ => exact .of_noControl (noControl_toString value)
  | string value => exact oneLine_stringText value
  | @array depth items _ ih =>
    have inside : OneLine (",".intercalate (items.map compact)).toList := by
      refine comma.intercalate fun text member => ?_
      obtain ⟨item, member', rfl⟩ := List.mem_map.mp member
      exact ih item member'
    rw [compact, compactItems_eq_map, String.toList_append, String.toList_append]
    exact (OneLine.append ⟨by decide, by decide⟩ inside).append ⟨by decide, by decide⟩
  | @object depth entries _ _ ih =>
    have inside : OneLine (",".intercalate
        (entries.map fun entry => stringText entry.1 ++ ":" ++ compact entry.2)).toList := by
      refine comma.intercalate fun text member => ?_
      obtain ⟨entry, member', rfl⟩ := List.mem_map.mp member
      rw [String.toList_append, String.toList_append]
      exact ((oneLine_stringText entry.1).append ⟨by decide, by decide⟩).append (ih entry member')
    rw [compact, compactEntries_eq_map, String.toList_append, String.toList_append]
    exact (OneLine.append ⟨by decide, by decide⟩ inside).append ⟨by decide, by decide⟩

/-! ## Scanning -/

theorem cuts_enclosed (opening closing : Char) {openToken closeToken : Token}
    (opens : ∀ rest, readToken opening rest = some (openToken, rest))
    (closes : ∀ rest, readToken closing rest = some (closeToken, rest))
    (ink : isSpace opening = false ∧ isSpace closing = false) (closer : closing ∈ closers)
    {texts : List String} {parts : List (List Token)}
    (cut : List.Forall₂ (fun text part => Cuts text.toList part) texts parts) :
    Cuts (String.singleton opening ++ ",".intercalate texts ++ String.singleton closing).toList
      (openToken :: ([.comma].intercalate parts ++ [closeToken])) := by
  have close : Cuts [closing] [closeToken] := cuts_nil.token ink.2 closes
  have separator : ",".toList = [','] := rfl
  have inside := (cuts_intercalate separator blank_nil cut).append close (closes_cons closer)
  rw [String.toList_append, String.toList_append, String.toList_singleton, String.toList_singleton]
  exact inside.token ink.1 opens

theorem cuts_compact {depth : Nat} {value : Json} (plain : Plain depth value) :
    Cuts value.compact.toList (tokens value) := by
  induction plain with
  | null => exact cuts_null
  | bool value => exact cuts_bool value
  | integer lower upper => exact cuts_integer lower upper
  | string value => exact cuts_string value
  | @array depth items _ ih =>
    rw [compact, tokens, compactItems_eq_map, itemTokens_eq_map]
    apply cuts_enclosed '[' ']' (fun _ => rfl) (fun _ => rfl) (by decide) (by decide)
    rw [List.forall₂_map_left_iff, List.forall₂_map_right_iff, List.forall₂_same]
    exact ih
  | @object depth entries _ _ ih =>
    rw [compact, tokens, compactEntries_eq_map, entryTokens_eq_map]
    apply cuts_enclosed '\x7b' '\x7d' (fun _ => rfl) (fun _ => rfl) (by decide) (by decide)
    rw [List.forall₂_map_left_iff, List.forall₂_map_right_iff, List.forall₂_same]
    intro entry member
    exact .entry entry.1 rfl blank_nil (ih entry member)

/-- The compact text of a plain value is read as that value. -/
theorem read_compact {value : Json} (plain : Plain maxDepth value) :
    read value.compact = some value :=
  read_of_scan plain (cuts_compact plain).scan_eq

end Json

end AgentBus
