import AgentBus.Proofs.Settings.Reading
import AgentBus.Protocol.Command

/-!
# Blanks at the end of a line

The ingress takes the blanks off the end of a line before it reads the line as a command, and a line
can be read as it stands as well. More characters count as blanks than may stand between tokens, but
no token ends in a blank. So behind the last token of a line that is read there are only spaces, and
without them the line has the same tokens (`Tokenizes.trimEnd`).

Main statement: `Command.ofText_iff_trimEnd`, by which a line is a command as it stands just when it
is the same command without its last blanks, it keeps the limit on its length with them, and they
are spaces.
-/

namespace AgentBus

namespace Text

/-! ## Trailing blanks -/

/-- What is dropped from the end are blanks. -/
theorem exists_blanks (cs : List Char) :
    ∃ blanks, cs = dropTrailingBlanks cs ++ blanks ∧ ∀ c ∈ blanks, isBlank c = true := by
  induction cs with
  | nil => exact ⟨[], rfl, nofun⟩
  | cons c rest ih =>
    obtain ⟨blanks, split, all⟩ := ih
    unfold dropTrailingBlanks
    split
    · next dropped =>
      rw [dropped, List.nil_append] at split
      split
      · next blank =>
        rw [split]
        exact ⟨c :: blanks, rfl, List.forall_mem_cons.mpr ⟨blank, all⟩⟩
      · exact ⟨blanks, by rw [split]; rfl, all⟩
    · exact ⟨blanks, by rw [List.cons_append, ← split], all⟩

theorem dropTrailingBlanks_of_all {cs : List Char} (all : ∀ c ∈ cs, isBlank c = true) :
    dropTrailingBlanks cs = [] := by
  induction cs with
  | nil => rfl
  | cons c rest ih =>
    obtain ⟨blank, others⟩ := List.forall_mem_cons.mp all
    simp only [dropTrailingBlanks, ih others, blank, if_true]

/-- Nothing is dropped up to a character that is no blank. -/
theorem dropTrailingBlanks_append {c : Char} (noBlank : isBlank c = false) (cs more : List Char) :
    dropTrailingBlanks (cs ++ c :: more) = cs ++ c :: dropTrailingBlanks more := by
  induction cs with
  | nil =>
    rw [List.nil_append, List.nil_append, dropTrailingBlanks]
    split
    · next dropped => rw [noBlank, dropped, if_neg Bool.false_ne_true]
    · rfl
  | cons d cs ih =>
    rw [List.cons_append, dropTrailingBlanks, ih]
    split
    · next empty => simp at empty
    · rfl

theorem toList_trimEnd (text : String) :
    (trimEnd text).toList = dropTrailingBlanks text.toList :=
  String.toList_ofList

theorem utf8ByteSize_trimEnd_le (text : String) :
    (trimEnd text).utf8ByteSize ≤ text.utf8ByteSize := by
  obtain ⟨blanks, split, _⟩ := exists_blanks text.toList
  have whole : text = trimEnd text ++ String.ofList blanks := by
    rw [← String.toList_inj, String.toList_append, toList_trimEnd, String.toList_ofList, ← split]
  rw [whole, String.utf8ByteSize_append, ← whole]
  exact Nat.le_add_right _ _

end Text

namespace Settings

open Text

/-! ## Tokens end in no blank -/

theorem isBlank_of_isSpace {c : Char} (space : isSpace c = true) : isBlank c = true := by
  simp only [isSpace, Bool.or_eq_true, decide_eq_true_eq] at space
  obtain (((rfl | rfl) | rfl) | rfl) | rfl := space <;> rfl

/-- No blank is a letter or a digit. -/
theorem not_isBlank_of_isAlphanum {c : Char} (alphanum : c.isAlphanum = true) :
    isBlank c = false := by
  have codes : 48 ≤ c.toNat ∧ c.toNat ≤ 57 ∨ 65 ≤ c.toNat ∧ c.toNat ≤ 90 ∨
      97 ≤ c.toNat ∧ c.toNat ≤ 122 := by
    obtain alpha | isDigit := Bool.or_eq_true_iff.mp alphanum
    · obtain isUpper | isLower := Bool.or_eq_true_iff.mp alpha
      · obtain ⟨least, most⟩ := of_decide_eq_true isUpper
        exact .inr (.inl ⟨UInt32.le_iff_toNat_le.mp least, UInt32.le_iff_toNat_le.mp most⟩)
      · obtain ⟨least, most⟩ := Bool.and_eq_true_iff.mp isLower
        exact .inr (.inr ⟨UInt32.le_iff_toNat_le.mp (of_decide_eq_true least),
          UInt32.le_iff_toNat_le.mp (of_decide_eq_true most)⟩)
    · obtain ⟨least, most⟩ := Bool.and_eq_true_iff.mp isDigit
      exact .inl ⟨UInt32.le_iff_toNat_le.mp (of_decide_eq_true least),
        UInt32.le_iff_toNat_le.mp (of_decide_eq_true most)⟩
  simp only [isBlank, Bool.or_eq_false_iff, Bool.and_eq_false_iff, decide_eq_false_iff_not]
  omega

theorem not_isBlank_of_continuesNumber {c : Char} (continues : continuesNumber c = true) :
    isBlank c = false := by
  simp only [continuesNumber, Bool.or_eq_true, decide_eq_true_eq] at continues
  obtain (alphanum | rfl) | rfl := continues
  · exact not_isBlank_of_isAlphanum alphanum
  · rfl
  · rfl

theorem not_isBlank_of_isNameChar {c : Char} (inName : isNameChar c = true) :
    isBlank c = false := by
  simp only [isNameChar, Bool.or_eq_true, decide_eq_true_eq] at inName
  obtain ((alphanum | rfl) | rfl) | rfl := inName
  · exact not_isBlank_of_isAlphanum alphanum
  · rfl
  · rfl
  · rfl

theorem isNameChar_of_isNameStart {c : Char} (start : isNameStart c = true) :
    isNameChar c = true := by
  simp only [isNameStart, Bool.or_eq_true, decide_eq_true_eq] at start
  obtain alpha | rfl := start
  · simp [isNameChar, Char.isAlphanum, alpha]
  · rfl

/-- All characters are printable. -/
def NoBlanks (cs : List Char) : Prop :=
  ∀ c ∈ cs, isBlank c = false

theorem NoBlanks.append {cs more : List Char} (first : NoBlanks cs) (second : NoBlanks more) :
    NoBlanks (cs ++ more) :=
  List.forall_mem_append.mpr ⟨first, second⟩

theorem NoBlanks.cons {c : Char} {cs : List Char} (first : isBlank c = false)
    (others : NoBlanks cs) : NoBlanks (c :: cs) :=
  List.forall_mem_cons.mpr ⟨first, others⟩

theorem noBlanks_of_isSign {sign : List Char} (isSign : IsSign sign) : NoBlanks sign := by
  obtain rfl | rfl | rfl := isSign
  · exact nofun
  · exact .cons rfl nofun
  · exact .cons rfl nofun

theorem noBlanks_of_isSuffix {suffix : List Char} (isSuffix : IsSuffix suffix) :
    NoBlanks suffix := by
  obtain rfl | rfl := isSuffix
  · exact nofun
  · exact .cons rfl nofun

theorem noBlanks_of_allDigits {digits : List Char} (all : AllDigits digits) : NoBlanks digits :=
  fun c member => not_isBlank_of_continuesNumber (continuesNumber_of_isDigit (all c member))

theorem noBlanks_of_isExponent {letter : Char} {sign digits : List Char}
    (isExponent : IsExponent (letter, sign, digits)) : NoBlanks (letter :: (sign ++ digits)) := by
  obtain ⟨isE, isSign, _, all⟩ := isExponent
  have others := (noBlanks_of_isSign isSign).append (noBlanks_of_allDigits all)
  obtain rfl | rfl := isE
  · exact .cons rfl others
  · exact .cons rfl others

theorem Literal.WellFormed.noBlanks {l : Literal} (wellFormed : l.WellFormed) :
    NoBlanks l.chars := by
  have fraction : NoBlanks (fractionChars l.fraction) := by
    cases written : l.fraction with
    | none => exact nofun
    | some digits => exact .cons rfl (noBlanks_of_allDigits (wellFormed.fraction _ written))
  have exponent : NoBlanks (exponentChars l.exponent) := by
    cases written : l.exponent with
    | none => exact nofun
    | some pieces => exact noBlanks_of_isExponent (wellFormed.exponent _ written)
  exact (((noBlanks_of_isSign wellFormed.sign).append
    (noBlanks_of_allDigits wellFormed.whole)).append fraction).append exponent

theorem noBlanks_of_numberForm {spelling : List Char} {value : Arg}
    (form : NumberForm spelling value) : NoBlanks spelling := by
  cases form with
  | decimal isSign _ all isSuffix =>
    exact ((noBlanks_of_isSign isSign).append (noBlanks_of_allDigits all)).append
      (noBlanks_of_isSuffix isSuffix)
  | @hexadecimal sign digits suffix x isSign isX _ all isSuffix =>
    have digits : NoBlanks digits := fun c member =>
      not_isBlank_of_continuesNumber (continuesNumber_of_isHexDigit c (all c member))
    have mark : isBlank x = false := by
      obtain rfl | rfl := isX
      · rfl
      · rfl
    exact ((noBlanks_of_isSign isSign).append (.cons rfl (.cons mark digits))).append
      (noBlanks_of_isSuffix isSuffix)
  | float wellFormed => exact wellFormed.noBlanks

/-- The last character of a token is no blank; inside a string there may be some. -/
theorem last_of_spells {spelling : List Char} {token : Token} (spells : Spells spelling token) :
    ∃ front last, spelling = front ++ [last] ∧ isBlank last = false := by
  have split {cs : List Char} (nonempty : cs ≠ []) (noBlanks : NoBlanks cs) :
      ∃ front last, cs = front ++ [last] ∧ isBlank last = false :=
    ⟨cs.dropLast, cs.getLast nonempty, (List.dropLast_concat_getLast nonempty).symm,
      noBlanks _ (List.getLast_mem nonempty)⟩
  cases spells with
  | assign isAssign => exact ⟨[], _, rfl, by obtain rfl | rfl := isAssign <;> rfl⟩
  | opening => exact ⟨[], _, rfl, rfl⟩
  | closing => exact ⟨[], _, rfl, rfl⟩
  | comma => exact ⟨[], _, rfl, rfl⟩
  | semicolon => exact ⟨[], _, rfl, rfl⟩
  | string => exact ⟨_ :: _, '"', rfl, rfl⟩
  | number form =>
    obtain ⟨c, cs, rfl, _⟩ := head_of_numberForm form
    exact split (List.cons_ne_nil _ _) (noBlanks_of_numberForm form)
  | name start all =>
    have noBlanks := NoBlanks.cons (not_isBlank_of_isNameChar (isNameChar_of_isNameStart start))
      fun c member => not_isBlank_of_isNameChar (all c member)
    exact split (List.cons_ne_nil _ _) noBlanks

/-! ## Texts without their last blanks -/

/-- A token stops where nothing but a part of what follows it is left. -/
theorem Stops.dropTrailingBlanks {token : Token} {rest : List Char} (stops : Stops token rest) :
    Stops token (dropTrailingBlanks rest) := by
  obtain ⟨blanks, split, _⟩ := exists_blanks rest
  by_cases empty : Text.dropTrailingBlanks rest = []
  · rw [empty]
    exact stops_nil token
  · rw [split] at stops
    exact stops.of_append empty

/-- A token that stops at the end of a text stops before a space as well. -/
theorem Stops.append_spaces {token : Token} {rest spaces : List Char} (stops : Stops token rest)
    (all : AllSpaces spaces) : Stops token (rest ++ spaces) := by
  cases rest with
  | cons c rest => exact ⟨stops.name, stops.number⟩
  | nil =>
    cases spaces with
    | nil => exact stops
    | cons c spaces =>
      have space := all c List.mem_cons_self
      simp only [isSpace, Bool.or_eq_true, decide_eq_true_eq] at space
      apply stops_of_head
      · obtain (((rfl | rfl) | rfl) | rfl) | rfl := space <;> rfl
      · obtain (((rfl | rfl) | rfl) | rfl) | rfl := space <;> rfl

/-- Without its last blanks a text is cut into the same tokens, and what is dropped are spaces. -/
theorem Tokenizes.trimEnd {cs : List Char} {tokens : List Token} (cuts : Tokenizes cs tokens) :
    Tokenizes (dropTrailingBlanks cs) tokens ∧
      ∃ spaces, AllSpaces spaces ∧ cs = dropTrailingBlanks cs ++ spaces := by
  induction cuts with
  | @done spaces all =>
    rw [dropTrailingBlanks_of_all fun c member => isBlank_of_isSpace (all c member)]
    exact ⟨.done nofun, spaces, all, rfl⟩
  | @token spaces spelling rest token tokens all cut _ ih =>
    obtain ⟨cuts, more, allMore, split⟩ := ih
    obtain ⟨front, last, rfl, noBlank⟩ := last_of_spells cut.spells
    -- Everything up to the end of this token stays
    have kept : dropTrailingBlanks (spaces ++ (front ++ [last] ++ rest)) =
        spaces ++ (front ++ [last] ++ dropTrailingBlanks rest) := by
      have whole := dropTrailingBlanks_append noBlank (spaces ++ front) rest
      simpa using whole
    rw [kept]
    refine ⟨.token all (cut_of_stops cut.spells (stops_of_cut cut).dropTrailingBlanks) cuts,
      more, allMore, ?_⟩
    rw [List.append_assoc spaces, List.append_assoc (front ++ [last]), ← split]

/-- Spaces at the end change no token. -/
theorem Tokenizes.append_spaces {cs spaces : List Char} {tokens : List Token}
    (cuts : Tokenizes cs tokens) (all : AllSpaces spaces) : Tokenizes (cs ++ spaces) tokens := by
  induction cuts with
  | @done before allBefore =>
    exact .done fun c member => (List.mem_append.mp member).elim (allBefore c) (all c)
  | @token before spelling rest token tokens allBefore cut _ ih =>
    rw [List.append_assoc, List.append_assoc]
    exact .token allBefore (cut_of_stops cut.spells ((stops_of_cut cut).append_spaces all)) ih

theorem isSettings_iff_trimEnd (text : String) (settings : List Setting) :
    IsSettings text settings ↔ IsSettings (trimEnd text) settings ∧
      ∃ spaces, AllSpaces spaces ∧ text.toList = (trimEnd text).toList ++ spaces := by
  unfold IsSettings
  rw [toList_trimEnd]
  constructor
  · rintro ⟨tokens, cuts, form⟩
    obtain ⟨cuts, spaces⟩ := cuts.trimEnd
    exact ⟨⟨tokens, cuts, form⟩, spaces⟩
  · rintro ⟨⟨tokens, cuts, form⟩, spaces, all, split⟩
    rw [split]
    exact ⟨tokens, cuts.append_spaces all, form⟩

end Settings

/-! ## Commands -/

namespace Command

open Settings Text

/-- A text is a command if it keeps the limit on its length, and its only setting is a list under
the keyword whose elements are a command. -/
theorem ofText_eq_ok_iff {text : String} {source : Option String} {limits : Limits}
    {command : Command} :
    ofText text source limits = .ok command ↔
      text.utf8ByteSize ≤ limits.maxTextLength.toNat ∧
        ∃ elements, IsSettings text [⟨keyword, .list elements⟩] ∧
          ofElements elements source limits = .ok command := by
  unfold ofText
  constructor
  · intro read
    split at read
    · contradiction
    next short =>
    split at read
    · contradiction
    · next setting found =>
      split at read
      · contradiction
      next named =>
      split at read
      · contradiction
      · next elements isList =>
        have same : setting = ⟨keyword, .list elements⟩ := by
          rw [Setting.mk.injEq]
          exact ⟨Classical.not_not.mp named, isList⟩
        exact ⟨Nat.not_lt.mp short, elements, (read_eq_ok_iff _ _).mp (same ▸ found), read⟩
    · contradiction
  · rintro ⟨short, elements, isSettings, read⟩
    rw [if_neg (Nat.not_lt.mpr short), read_of_isSettings isSettings]
    exact read

/-- A line is a command as it stands just when it is one without the blanks at its end, it is short
enough with them, and they are spaces of the kind that may stand between tokens. Both times it is
the same command. -/
theorem ofText_iff_trimEnd (text : String) (source : Option String) (limits : Limits)
    (command : Command) :
    ofText text source limits = .ok command ↔
      ofText (trimEnd text) source limits = .ok command ∧
        text.utf8ByteSize ≤ limits.maxTextLength.toNat ∧
        ∃ spaces, AllSpaces spaces ∧ text.toList = (trimEnd text).toList ++ spaces := by
  rw [ofText_eq_ok_iff, ofText_eq_ok_iff]
  constructor
  · rintro ⟨short, elements, isSettings, read⟩
    obtain ⟨trimmed, spaces⟩ := (isSettings_iff_trimEnd _ _).mp isSettings
    exact ⟨⟨Nat.le_trans (utf8ByteSize_trimEnd_le text) short, elements, trimmed, read⟩, short,
      spaces⟩
  · rintro ⟨⟨_, elements, trimmed, read⟩, short, spaces⟩
    exact ⟨short, elements, (isSettings_iff_trimEnd _ _).mpr ⟨trimmed, spaces⟩, read⟩

end Command

end AgentBus
