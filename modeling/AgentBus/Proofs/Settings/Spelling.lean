import AgentBus.Proofs.Settings.Reading

/-!
# How elements are written

The grammar of settings forgets how a token was written once it is known what the token stands for.
This module keeps both, so that one can ask for the characters of an element: `FirstElement` gives
those of the first element of a list, and `IntegerForm` those of an integer without a long suffix.

Main statement: `int_iff_written`, by which the first element of a list is a narrow integer just
when it is written as one.
-/

namespace AgentBus.Settings

/-! ## Tokens and their characters -/

/-- A text cut into tokens, each with the characters that it is written with. -/
inductive Spelled : List Char → List (List Char × Token) → Prop where
  | done {spaces : List Char} : AllSpaces spaces → Spelled spaces []
  | token {spaces spelling rest : List Char} {token : Token} {tokens : List (List Char × Token)} :
      AllSpaces spaces → Cut spelling rest token → Spelled rest tokens →
      Spelled (spaces ++ (spelling ++ rest)) ((spelling, token) :: tokens)

theorem Spelled.tokenizes {cs : List Char} {tokens : List (List Char × Token)}
    (spelled : Spelled cs tokens) : Tokenizes cs (tokens.map Prod.snd) := by
  induction spelled with
  | done all => exact .done all
  | token all cut _ ih => exact .token all cut ih

theorem Tokenizes.spelled {cs : List Char} {tokens : List Token} (cuts : Tokenizes cs tokens) :
    ∃ spellings, Spelled cs spellings ∧ spellings.map Prod.snd = tokens := by
  induction cuts with
  | done all => exact ⟨[], .done all, rfl⟩
  | token all cut _ ih =>
    obtain ⟨spellings, spelled, rfl⟩ := ih
    exact ⟨_, .token all cut spelled, rfl⟩

theorem Spelled.spells {cs : List Char} {tokens : List (List Char × Token)}
    (spelled : Spelled cs tokens) : ∀ written ∈ tokens, Spells written.1 written.2 := by
  induction spelled with
  | done => nofun
  | token all cut _ ih => exact List.forall_mem_cons.mpr ⟨cut.spells, ih⟩

/-- A text is cut into tokens in one way. -/
theorem Tokenizes.unique {cs : List Char} {tokens others : List Token}
    (cuts : Tokenizes cs tokens) (cutsOtherwise : Tokenizes cs others) : tokens = others := by
  rw [← (scan_of_tokenizes cuts).2, (scan_of_tokenizes cutsOtherwise).2]

/-- What is written as one token stands for one thing. -/
theorem Spells.unique {spelling : List Char} {token other : Token} (spells : Spells spelling token)
    (spellsOther : Spells spelling other) : token = other := by
  obtain ⟨c, cs, rfl, read⟩ := readToken_of_spells spells (stops_nil token)
  obtain ⟨c', cs', same, readOther⟩ := readToken_of_spells spellsOther (stops_nil other)
  obtain ⟨rfl, rfl⟩ := List.cons.inj same
  rw [read] at readOther
  exact congrArg Prod.fst (Except.ok.inj readOther)

/-- A text of settings has one reading. -/
theorem IsSettings.unique {text : String} {settings others : List Setting}
    (isSettings : IsSettings text settings) (isOthers : IsSettings text others) :
    settings = others := by
  have read := read_of_isSettings isSettings
  rw [read_of_isSettings isOthers] at read
  exact (Except.ok.inj read).symm

/-! ## Integers without a suffix -/

/-- The characters of an integer: decimal digits, or hexadecimal ones behind their mark, with a sign
in front that may be left out. -/
inductive IntegerForm : List Char → Int → Prop where
  | decimal {sign digits : List Char} : IsSign sign → digits ≠ [] → AllDigits digits →
      IntegerForm (sign ++ digits) (signed sign (decimalValue digits))
  | hexadecimal {sign digits : List Char} {x : Char} : IsSign sign → x = 'x' ∨ x = 'X' →
      digits ≠ [] → (∀ c ∈ digits, isHexDigit c = true) →
      IntegerForm (sign ++ '0' :: x :: digits) (signed sign (hexadecimalValue digits))

theorem ofInt_toInt (narrow : Int32) : Arg.ofInt narrow.toInt false = .int narrow := by
  have lower := narrow.minValue_le_toInt
  have upper := narrow.toInt_le
  unfold Arg.ofInt
  rw [if_pos (by simpa using ⟨lower, upper⟩), Int32.ofInt_toInt]

/-- Only a number without a suffix is narrow, and it keeps its value. -/
theorem of_ofInt_eq_int {value : Int} {suffix : List Char} {narrow : Int32}
    (isSuffix : IsSuffix suffix) (same : Arg.ofInt value (suffix = ['L']) = .int narrow) :
    suffix = [] ∧ value = narrow.toInt := by
  unfold Arg.ofInt at same
  split at same
  · next fits =>
    simp only [Bool.and_eq_true, Bool.not_eq_true', decide_eq_false_iff_not,
      decide_eq_true_eq] at fits
    obtain ⟨⟨short, lower⟩, upper⟩ := fits
    rw [← Arg.int.inj same, Int32.toInt_ofInt_of_le lower (Int.lt_of_le_of_lt upper (by decide))]
    exact ⟨isSuffix.resolve_right short, rfl⟩
  · cases same

theorem integerForm_of_numberForm {spelling : List Char} {narrow : Int32}
    (form : NumberForm spelling (.int narrow)) : IntegerForm spelling narrow.toInt := by
  generalize isNarrow : Arg.int narrow = value at form
  cases form with
  | decimal isSign nonempty all isSuffix =>
    obtain ⟨rfl, same⟩ := of_ofInt_eq_int isSuffix isNarrow.symm
    rw [← same, List.append_nil]
    exact .decimal isSign nonempty all
  | hexadecimal isSign isX nonempty all isSuffix =>
    obtain ⟨rfl, same⟩ := of_ofInt_eq_int isSuffix isNarrow.symm
    rw [← same, List.append_nil]
    exact .hexadecimal isSign isX nonempty all
  | float => cases isNarrow

/-- A positive number of 64 bits that is written as an integer is that integer. -/
theorem numberForm_of_integerForm {spelling : List Char} {value : Int}
    (form : IntegerForm spelling value) (positive : 1 ≤ value)
    (bound : value ≤ Int64.maxValue.toInt) : NumberForm spelling (.ofInt value false) := by
  have least : Int64.minValue.toInt ≤ 1 := by decide
  cases form with
  | decimal isSign nonempty all =>
    have number := NumberForm.decimal isSign nonempty all (.inl rfl)
      (Int.le_trans least positive) bound
    rw [List.append_nil] at number
    exact number
  | @hexadecimal sign digits x isSign isX nonempty all =>
    -- The magnitude is the value, since a negative number would not be positive
    have magnitude : signed sign (hexadecimalValue digits) = hexadecimalValue digits := by
      unfold signed at positive ⊢
      split at positive
      · omega
      · next noMinus => rw [if_neg noMinus]
    have number := NumberForm.hexadecimal isSign isX nonempty all (.inl rfl) (magnitude ▸ bound)
    rw [List.append_nil] at number
    exact number

/-! ## The first element -/

/-- The first element of the list in a text begins with a token that is written so. It comes behind
the name, the sign and the parenthesis. -/
def FirstElement (text : String) (spelling : List Char) : Prop :=
  ∃ tokens token, Spelled text.toList tokens ∧ tokens[3]? = some (spelling, token)

theorem head_of_scalarForm {tokens : List Token} {value : Arg} (form : ScalarForm tokens value) :
    ∃ head tail, tokens = head :: tail ∧
      ∀ narrow, head = .scalar (.int narrow) ↔ value = .int narrow := by
  cases form with
  | @strings texts nonempty =>
    obtain ⟨text, texts, rfl⟩ := List.exists_cons_of_ne_nil nonempty
    exact ⟨_, _, rfl, by simp⟩
  | number => exact ⟨_, _, rfl, by simp⟩
  | bool => exact ⟨_, _, rfl, by simp⟩

/-- The fourth token of a list tells whether its first element is a narrow integer. -/
theorem fourth_of_settingsForm {tokens : List Token} {name : String} {first : Arg}
    {others : List Arg} (form : SettingsForm tokens [⟨name, .list (first :: others)⟩]) :
    ∃ token, tokens[3]? = some token ∧
      ∀ narrow, token = .scalar (.int narrow) ↔ first = .int narrow := by
  cases form with
  | cons form _ _ =>
    cases form with
    | list form =>
      cases form with
      | last form =>
        obtain ⟨head, tail, rfl, isNarrow⟩ := head_of_scalarForm form
        exact ⟨head, rfl, isNarrow⟩
      | more form _ =>
        obtain ⟨head, tail, rfl, isNarrow⟩ := head_of_scalarForm form
        exact ⟨head, rfl, isNarrow⟩

/-- The first element of a list is a narrow integer just when it is written as one. -/
theorem int_iff_written {text : String} {name : String} {first : Arg} {others : List Arg}
    (isSettings : IsSettings text [⟨name, .list (first :: others)⟩]) {narrow : Int32}
    (positive : 1 ≤ narrow.toInt) :
    first = .int narrow ↔
      ∃ spelling, FirstElement text spelling ∧ IntegerForm spelling narrow.toInt := by
  obtain ⟨tokens, cuts, form⟩ := isSettings
  obtain ⟨token, fourth, isNarrow⟩ := fourth_of_settingsForm form
  rw [← isNarrow]
  constructor
  · rintro rfl
    obtain ⟨spellings, spelled, rfl⟩ := cuts.spelled
    rw [List.getElem?_map, Option.map_eq_some_iff] at fourth
    obtain ⟨⟨spelling, _⟩, found, rfl⟩ := fourth
    have spells := spelled.spells _ (List.mem_of_getElem? found)
    cases spells with
    | number form =>
      exact ⟨spelling, ⟨spellings, _, spelled, found⟩, integerForm_of_numberForm form⟩
  · rintro ⟨spelling, ⟨spellings, other, spelled, found⟩, form⟩
    obtain rfl : other = token := by
      rw [cuts.unique spelled.tokenizes, List.getElem?_map, found] at fourth
      exact Option.some.inj fourth
    have number := numberForm_of_integerForm form positive
      (Int.le_trans narrow.toInt_le (by decide))
    rw [ofInt_toInt] at number
    exact (spelled.spells _ (List.mem_of_getElem? found)).unique (.number number)

end AgentBus.Settings
