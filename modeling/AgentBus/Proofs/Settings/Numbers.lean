import AgentBus.Proofs.Settings.Strings

/-!
# The reader of numbers

`readNumber` reads the numbers of the grammar: `readNumber_of_form` says that it takes a number that
ends where it does, and `form_of_readNumber` that it takes nothing else. Hexadecimal and decimal
numbers are read apart; the pieces of a decimal literal come from `splitLiteral`, which undoes
`Literal.chars`.
-/

namespace AgentBus.Settings

/-! ## What may follow -/

theorem continuesNumber_of_isDigit {c : Char} (digit : c.isDigit = true) :
    continuesNumber c = true := by
  simp [continuesNumber, Char.isAlphanum, digit]

/-- A class of characters that continue a number does not follow where one ends. -/
theorem Ends.of_class {p : Char → Bool} {rest : List Char} (ends : Ends rest)
    (continues : ∀ c, p c = true → continuesNumber c = true) : rest.head?.any p = false :=
  head_of_imp ends continues

/-- The same behind a suffix, for a class that the suffix is not in. -/
theorem Ends.of_class_suffix {p : Char → Bool} {suffix rest : List Char} (ends : Ends rest)
    (isSuffix : IsSuffix suffix) (continues : ∀ c, p c = true → continuesNumber c = true)
    (noSuffix : p 'L' = false) : (suffix ++ rest).head?.any p = false := by
  obtain rfl | rfl := isSuffix
  · exact ends.of_class continues
  · simpa using noSuffix

/-- The characters that would belong to a decimal literal. -/
def continuesLiteral (c : Char) : Bool :=
  c.isDigit || c = '.' || c = 'e' || c = 'E'

theorem continuesNumber_of_continuesLiteral (c : Char) (continues : continuesLiteral c = true) :
    continuesNumber c = true := by
  simp only [continuesLiteral, Bool.or_eq_true, decide_eq_true_eq] at continues
  obtain ((digit | rfl) | rfl) | rfl := continues
  · exact continuesNumber_of_isDigit digit
  all_goals decide

theorem continuesNumber_of_isAlpha {c : Char} (alpha : c.isAlpha = true) :
    continuesNumber c = true := by
  simp [continuesNumber, Char.isAlphanum, alpha]

theorem continuesNumber_of_isHexDigit (c : Char) (digit : isHexDigit c = true) :
    continuesNumber c = true := by
  simp only [isHexDigit, hexValue?] at digit
  split at digit
  · next decimal => exact continuesNumber_of_isDigit decimal
  split at digit
  · next lower =>
    have below : c.val ≤ 'z'.val := UInt32.le_trans lower.2 (by decide)
    have isLower : c.isLower = true :=
      Bool.and_eq_true_iff.mpr ⟨decide_eq_true lower.1, decide_eq_true below⟩
    exact continuesNumber_of_isAlpha (Bool.or_eq_true_iff.mpr (.inr isLower))
  split at digit
  · next upper =>
    have below : c.val ≤ 'Z'.val := UInt32.le_trans upper.2 (by decide)
    have isUpper : c.isUpper = true := decide_eq_true ⟨upper.1, below⟩
    exact continuesNumber_of_isAlpha (Bool.or_eq_true_iff.mpr (.inl isUpper))
  · simp at digit

/-! ## Signs and suffixes -/

theorem isSign_splitSign (cs : List Char) : IsSign (splitSign cs).1 := by
  unfold splitSign
  split
  · exact .inl rfl
  · next c rest =>
    split
    · next isSign =>
      simp only [Bool.or_eq_true, decide_eq_true_eq] at isSign
      obtain rfl | rfl := isSign
      · exact .inr (.inl rfl)
      · exact .inr (.inr rfl)
    · exact .inl rfl

/-- A sign is split off as it is written, if no second one follows. -/
theorem splitSign_append_of_head {sign cs : List Char} (isSign : IsSign sign)
    (head : cs.head?.any (fun c => c = '+' || c = '-') = false) :
    splitSign (sign ++ cs) = (sign, cs) := by
  obtain rfl | rfl | rfl := isSign
  · cases cs with
    | nil => rfl
    | cons c cs => simp_all [splitSign]
  · rfl
  · rfl

theorem ne_of_isDigit {c d : Char} (digit : c.isDigit = true) (other : d.isDigit = false) :
    c ≠ d := by
  rintro rfl
  rw [digit] at other
  contradiction

theorem head_no_sign {digits : List Char} (nonempty : digits ≠ []) (all : AllDigits digits)
    (rest : List Char) : (digits ++ rest).head?.any (fun c => c = '+' || c = '-') = false := by
  cases digits with
  | nil => exact absurd rfl nonempty
  | cons d digits =>
    have digit := all d List.mem_cons_self
    simp only [List.cons_append, List.head?_cons, Option.any_some, Bool.or_eq_false_iff,
      decide_eq_false_iff_not]
    exact ⟨ne_of_isDigit digit (by decide), ne_of_isDigit digit (by decide)⟩

theorem splitLong_append {suffix rest : List Char} (isSuffix : IsSuffix suffix)
    (ends : Ends rest) : splitLong (suffix ++ rest) = (decide (suffix = ['L']), rest) := by
  obtain rfl | rfl := isSuffix
  · cases rest with
    | nil => rfl
    | cons c rest =>
      have noSuffix : c ≠ 'L' := by
        rintro rfl
        simp [Ends, continuesNumber, Char.isAlphanum] at ends
      simp [splitLong, noSuffix]
  · rfl

theorem exists_suffix_splitLong (cs : List Char) :
    ∃ suffix, IsSuffix suffix ∧ cs = suffix ++ (splitLong cs).2 ∧
      (splitLong cs).1 = decide (suffix = ['L']) := by
  unfold splitLong
  split
  · exact ⟨[], .inl rfl, rfl, rfl⟩
  · next c rest =>
    split
    · next isLong => exact ⟨['L'], .inr rfl, by simp [isLong], rfl⟩
    · exact ⟨[], .inl rfl, rfl, rfl⟩

theorem endNumber_of_ends {start rest : List Char} {value : Arg} (ends : Ends rest) :
    endNumber start value rest = .ok (value, rest) := by
  rw [endNumber, if_neg (by simpa [Ends] using ends)]

theorem ends_of_endNumber {start rest after : List Char} {value read : Arg}
    (ok : endNumber start value rest = .ok (read, after)) :
    read = value ∧ after = rest ∧ Ends rest := by
  obtain ⟨rfl, rfl⟩ := eq_of_endNumber_eq_ok ok
  refine ⟨rfl, rfl, ?_⟩
  unfold endNumber at ok
  split at ok
  · contradiction
  · next ends => simpa [Ends] using ends

theorem signed_eq (sign : List Char) (magnitude : Nat) :
    (if decide (sign = ['-']) then -(magnitude : Int) else magnitude) = signed sign magnitude := by
  simp [signed]

/-! ## Hexadecimal integers -/

theorem startsHexadecimal_iff {cs : List Char} :
    startsHexadecimal cs = true ↔ ∃ x rest, (x = 'x' ∨ x = 'X') ∧ cs = '0' :: x :: rest := by
  constructor
  · intro starts
    match cs with
    | [] => simp [startsHexadecimal] at starts
    | [_] => simp [startsHexadecimal] at starts
    | zero :: x :: rest =>
      simp only [startsHexadecimal, Bool.and_eq_true, Bool.or_eq_true, decide_eq_true_eq] at starts
      exact ⟨x, rest, starts.2, by rw [starts.1]⟩
  · rintro ⟨x, rest, rfl | rfl, rfl⟩ <;> rfl

/-- Digits of any number are read to their end; only their magnitude matters. -/
theorem readHexadecimal_digits {sign digits suffix rest : List Char} (nonempty : digits ≠ [])
    (all : ∀ c ∈ digits, isHexDigit c = true) (isSuffix : IsSuffix suffix) (ends : Ends rest)
    (start : List Char) :
    readHexadecimal start (sign = ['-']) (digits ++ (suffix ++ rest)) =
      if (hexadecimalValue digits : Int) ≤ Int64.maxValue.toInt then
        .ok (.ofInt (signed sign (hexadecimalValue digits)) (suffix = ['L']), rest)
      else .error ⟨start, .invalidHexInteger⟩ := by
  have stop : (suffix ++ rest).head?.any isHexDigit = false :=
    ends.of_class_suffix isSuffix continuesNumber_of_isHexDigit (by decide)
  unfold readHexadecimal
  simp only [takeWhile_run all stop, dropWhile_run all stop, splitLong_append isSuffix ends]
  by_cases bound : (hexadecimalValue digits : Int) ≤ Int64.maxValue.toInt
  · rw [if_pos bound, if_neg (not_or.mpr ⟨nonempty, Int.not_lt.mpr bound⟩),
      endNumber_of_ends ends, signed_eq]
  · rw [if_neg bound, if_pos (.inr (Int.not_le.mp bound))]

theorem form_of_readHexadecimal {start sign rest after : List Char} {x : Char} {value : Arg}
    (isSign : IsSign sign) (isX : x = 'x' ∨ x = 'X')
    (read : readHexadecimal start (sign = ['-']) rest = .ok (value, after)) :
    ∃ spelling, sign ++ '0' :: x :: rest = spelling ++ after ∧ NumberForm spelling value ∧
      Ends after := by
  unfold readHexadecimal at read
  simp only at read
  split at read
  · contradiction
  · next fits =>
    rw [not_or, Int.not_lt] at fits
    obtain ⟨suffix, isSuffix, split, long⟩ :=
      exists_suffix_splitLong (rest.dropWhile isHexDigit)
    obtain ⟨rfl, rfl, ends⟩ := ends_of_endNumber read
    refine ⟨sign ++ '0' :: x :: rest.takeWhile isHexDigit ++ suffix, ?_, ?_, ends⟩
    · have whole : rest = rest.takeWhile isHexDigit ++
          (suffix ++ (splitLong (rest.dropWhile isHexDigit)).2) := by
        rw [← split, List.takeWhile_append_dropWhile]
      simp only [List.append_assoc, List.cons_append]
      rw [← whole]
    · rw [signed_eq, long]
      exact .hexadecimal isSign isX fits.1 (fun _ => mem_takeWhile) isSuffix fits.2

/-! ## Decimal literals -/

theorem splitFraction_of_head {cs : List Char} (head : cs.head?.any (fun c => c = '.') = false) :
    splitFraction cs = (none, cs) := by
  cases cs with
  | nil => rfl
  | cons c cs => simp_all [splitFraction]

theorem splitExponent_of_head {cs : List Char}
    (head : cs.head?.any (fun c => c = 'e' || c = 'E') = false) :
    splitExponent cs = (none, cs) := by
  cases cs with
  | nil => rfl
  | cons c cs => simp_all [splitExponent]

/-- Nothing that would belong to a literal comes next. -/
def EndsLiteral (rest : List Char) : Prop :=
  rest.head?.any continuesLiteral = false

theorem EndsLiteral.of_class {p : Char → Bool} {rest : List Char} (ends : EndsLiteral rest)
    (continues : ∀ c, p c = true → continuesLiteral c = true) : rest.head?.any p = false :=
  head_of_imp ends continues

theorem EndsLiteral.no_digit {rest : List Char} (ends : EndsLiteral rest) :
    rest.head?.any Char.isDigit = false :=
  ends.of_class fun c digit => by simp [continuesLiteral, digit]

theorem head_exponentChars {exponent : Option (Char × List Char × List Char)}
    (wellFormed : ∀ written, exponent = some written → IsExponent written) {p : Char → Bool}
    (noLower : p 'e' = false) (noUpper : p 'E' = false) {rest : List Char}
    (stop : rest.head?.any p = false) : (exponentChars exponent ++ rest).head?.any p = false := by
  cases exponent with
  | none => exact stop
  | some written =>
    obtain ⟨letter, sign, digits⟩ := written
    obtain ⟨rfl | rfl, -⟩ := wellFormed _ rfl
    · simpa [exponentChars] using noLower
    · simpa [exponentChars] using noUpper

theorem splitExponent_exponentChars {exponent : Option (Char × List Char × List Char)}
    (wellFormed : ∀ written, exponent = some written → IsExponent written) {rest : List Char}
    (ends : EndsLiteral rest) :
    splitExponent (exponentChars exponent ++ rest) = (exponent, rest) := by
  cases exponent with
  | none =>
    refine splitExponent_of_head (ends.of_class fun c letter => ?_)
    simp only [Bool.or_eq_true] at letter
    simp only [continuesLiteral, Bool.or_eq_true]
    obtain lower | upper := letter
    · exact .inl (.inr lower)
    · exact .inr upper
  | some written =>
    obtain ⟨letter, sign, digits⟩ := written
    obtain ⟨isLetter, isSign, nonempty, all⟩ := wellFormed _ rfl
    have taken := splitSign_append_of_head isSign (head_no_sign nonempty all rest)
    simp only [exponentChars, List.cons_append, List.append_assoc, splitExponent, taken]
    rw [if_pos (by simpa using isLetter), takeWhile_run all ends.no_digit,
      dropWhile_run all ends.no_digit]

theorem splitFraction_fractionChars {fraction : Option (List Char)}
    (wellFormed : ∀ digits, fraction = some digits → AllDigits digits) {rest : List Char}
    (noDigit : rest.head?.any Char.isDigit = false)
    (noPoint : rest.head?.any (fun c => c = '.') = false) :
    splitFraction (fractionChars fraction ++ rest) = (fraction, rest) := by
  cases fraction with
  | none => exact splitFraction_of_head noPoint
  | some digits =>
    have all := wellFormed digits rfl
    simp [fractionChars, splitFraction, takeWhile_run all noDigit, dropWhile_run all noDigit]

/-- The pieces of a literal are cut out of its characters as they are. -/
theorem splitLiteral_chars {l : Literal} (wellFormed : l.WellFormed) {rest : List Char}
    (ends : EndsLiteral rest) :
    splitLiteral l.sign
      (l.whole ++ (fractionChars l.fraction ++ (exponentChars l.exponent ++ rest))) =
        (l, rest) := by
  have noDigit := head_exponentChars wellFormed.exponent (p := Char.isDigit) rfl rfl ends.no_digit
  have noPoint := head_exponentChars wellFormed.exponent (p := fun c => c = '.') rfl rfl
    (ends.of_class fun c point => by simp_all [continuesLiteral])
  have noDigit' : (fractionChars l.fraction ++
      (exponentChars l.exponent ++ rest)).head?.any Char.isDigit = false := by
    cases l.fraction with
    | none => exact noDigit
    | some digits => rfl
  simp only [splitLiteral, takeWhile_run wellFormed.whole noDigit',
    dropWhile_run wellFormed.whole noDigit',
    splitFraction_fractionChars wellFormed.fraction noDigit noPoint,
    splitExponent_exponentChars wellFormed.exponent ends]

theorem allDigits_takeWhile (cs : List Char) : AllDigits (cs.takeWhile Char.isDigit) :=
  fun _ => mem_takeWhile

theorem wellFormed_splitLiteral {sign rest : List Char} (isSign : IsSign sign)
    (digits : (splitLiteral sign rest).1.exponent.any (fun exponent => exponent.2.2 = []) = false) :
    (splitLiteral sign rest).1.WellFormed where
  sign := isSign
  whole := allDigits_takeWhile _
  fraction := by
    intro found cut
    simp only [splitLiteral, splitFraction] at cut
    split at cut
    · contradiction
    · split at cut
      · obtain rfl := Option.some.inj cut
        exact allDigits_takeWhile _
      · contradiction
  exponent := by
    intro written cut
    simp only [cut, Option.any_some, decide_eq_false_iff_not] at digits
    simp only [splitLiteral, splitExponent] at cut
    split at cut
    · contradiction
    · split at cut
      · next isLetter =>
        obtain rfl := Option.some.inj cut
        exact ⟨by simpa using isLetter, isSign_splitSign _, digits, allDigits_takeWhile _⟩
      · contradiction

/-! ## Decimal numbers -/

theorem Ends.literal {rest : List Char} (ends : Ends rest) : EndsLiteral rest :=
  ends.of_class continuesNumber_of_continuesLiteral

theorem Literal.integer?_eq_some_iff {l : Literal} {value : Int} :
    l.integer? = some value ↔ l.whole ≠ [] ∧ Int64.minValue.toInt ≤ value ∧
      value ≤ Int64.maxValue.toInt ∧ signed l.sign (decimalValue l.whole) = value := by
  have negated : (if l.negative then -(decimalValue l.whole : Int) else decimalValue l.whole) =
      signed l.sign (decimalValue l.whole) := signed_eq _ _
  dsimp only [Literal.integer?]
  rw [negated]
  constructor
  · intro found
    split at found
    · next fits =>
      obtain rfl := Option.some.inj found
      exact ⟨fits.1, fits.2.1, fits.2.2, rfl⟩
    · contradiction
  · rintro ⟨nonempty, above, below, rfl⟩
    rw [if_pos ⟨nonempty, above, below⟩]

/-- Digits of any number are read to their end; only their value with its sign matters. -/
theorem readDecimal_digits {sign digits suffix rest : List Char} (isSign : IsSign sign)
    (all : AllDigits digits) (isSuffix : IsSuffix suffix) (ends : Ends rest) (start : List Char) :
    readDecimal start sign (digits ++ (suffix ++ rest)) =
      match Literal.integer? ⟨sign, digits, none, none⟩ with
      | some value => .ok (.ofInt value (suffix = ['L']), rest)
      | none => .error ⟨start, .invalidInteger (String.ofList (sign ++ digits))⟩ := by
  have wellFormed : Literal.WellFormed ⟨sign, digits, none, none⟩ :=
    { sign := isSign, whole := all, fraction := nofun, exponent := nofun }
  have split : splitLiteral sign (digits ++ (suffix ++ rest)) =
      (⟨sign, digits, none, none⟩, suffix ++ rest) :=
    splitLiteral_chars wellFormed
      (ends.of_class_suffix isSuffix continuesNumber_of_continuesLiteral (by decide))
  have chars : Literal.chars ⟨sign, digits, none, none⟩ = sign ++ digits := by
    simp [Literal.chars, fractionChars, exponentChars]
  unfold readDecimal
  cases integer : Literal.integer? ⟨sign, digits, none, none⟩ <;>
    simp only [split, integer, Option.any_none, Bool.false_eq_true, if_false, Literal.isFloat,
      Option.isSome_none, Bool.or_false, splitLong_append isSuffix ends, chars,
      endNumber_of_ends ends]

theorem readDecimal_of_float {l : Literal} (wellFormed : l.WellFormed) (isFloat : l.isFloat = true)
    (nonempty : l.mantissa ≠ []) {rest : List Char} (ends : Ends rest) (start : List Char) :
    readDecimal start l.sign
      (l.whole ++ (fractionChars l.fraction ++ (exponentChars l.exponent ++ rest))) =
        .ok (.float (Binary64.ofDecimal l.negative (decimalValue l.mantissa) l.scale), rest) := by
  have digits : l.exponent.any (fun exponent => exponent.2.2 = []) = false := by
    cases written : l.exponent with
    | none => rfl
    | some exponent =>
      obtain ⟨letter, sign, digits⟩ := exponent
      obtain ⟨-, -, nonempty, -⟩ := wellFormed.exponent _ written
      simpa using nonempty
  have noMore : ¬ rest.head?.any continuesNumber = true := by simpa [Ends] using ends
  unfold readDecimal
  simp [splitLiteral_chars wellFormed ends.literal, digits, isFloat, noMore, Literal.float?,
    nonempty]

theorem form_of_readDecimal {start sign rest after : List Char} {value : Arg}
    (isSign : IsSign sign) (read : readDecimal start sign rest = .ok (value, after)) :
    ∃ spelling, sign ++ rest = spelling ++ after ∧ NumberForm spelling value ∧ Ends after := by
  have whole := splitLiteral_append sign rest
  have keepsSign : (splitLiteral sign rest).1.sign = sign := rfl
  unfold readDecimal at read
  simp only at read
  split at read
  · contradiction
  · next digits =>
    have wellFormed := wellFormed_splitLiteral isSign (by simpa using digits)
    -- From here on it matters only that the pieces are well formed and make up the text
    generalize (splitLiteral sign rest).1 = l at *
    generalize (splitLiteral sign rest).2 = tail at *
    split at read
    · next isFloat =>
      split at read
      · contradiction
      · next ends =>
        by_cases nonempty : l.mantissa = []
        · simp [Literal.float?, nonempty] at read
        · simp only [Literal.float?, nonempty, if_false, Except.ok.injEq, Prod.mk.injEq] at read
          obtain ⟨rfl, rfl⟩ := read
          exact ⟨l.chars, whole.symm, .float wellFormed isFloat nonempty,
            by simpa [Ends] using ends⟩
    · next isInteger =>
      split at read
      · next integer found =>
        obtain ⟨suffix, isSuffix, split, long⟩ := exists_suffix_splitLong tail
        obtain ⟨rfl, rfl, ends⟩ := ends_of_endNumber read
        obtain ⟨nonempty, above, below, rfl⟩ := Literal.integer?_eq_some_iff.mp found
        simp only [Literal.isFloat, Bool.or_eq_true, Option.isSome_iff_ne_none, not_or,
          ne_eq, Decidable.not_not] at isInteger
        have chars : l.chars = sign ++ l.whole := by
          simp [Literal.chars, isInteger, fractionChars, exponentChars, keepsSign]
        rw [keepsSign] at above below ⊢
        refine ⟨sign ++ l.whole ++ suffix, ?_, ?_, ends⟩
        · rw [← whole, chars, List.append_assoc, List.append_assoc, List.append_assoc, ← split]
        · rw [long]
          exact .decimal isSign nonempty wellFormed.whole isSuffix above below
      · contradiction

/-! ## Numbers -/

/-- Digits are not followed by the letter of a hexadecimal number. -/
theorem no_startsHexadecimal {digits rest : List Char} (all : AllDigits digits)
    (noX : rest.head?.any (fun c => c = 'x' || c = 'X') = false)
    (noZero : digits = [] → rest.head?.any (fun c => c = '0') = false) :
    startsHexadecimal (digits ++ rest) = false := by
  match digits with
  | [] =>
    cases rest with
    | nil => rfl
    | cons c rest =>
      have zero := noZero rfl
      cases rest <;> simp_all [startsHexadecimal]
  | [d] =>
    cases rest with
    | nil => rfl
    | cons c rest => simp_all [startsHexadecimal]
  | d :: d' :: digits =>
    have digit := all d' (by simp)
    have noLower : d' ≠ 'x' := ne_of_isDigit digit (by decide)
    have noUpper : d' ≠ 'X' := ne_of_isDigit digit (by decide)
    simp [startsHexadecimal, noLower, noUpper]

theorem continuesNumber_of_isX (c : Char) (isX : (c = 'x' || c = 'X') = true) :
    continuesNumber c = true := by
  simp only [Bool.or_eq_true, decide_eq_true_eq] at isX
  obtain rfl | rfl := isX <;> rfl

theorem readNumber_digits {sign digits suffix rest : List Char} (isSign : IsSign sign)
    (nonempty : digits ≠ []) (all : AllDigits digits) (isSuffix : IsSuffix suffix)
    (ends : Ends rest) :
    readNumber (sign ++ (digits ++ (suffix ++ rest))) =
      readDecimal (sign ++ (digits ++ (suffix ++ rest))) sign (digits ++ (suffix ++ rest)) := by
  have split := splitSign_append_of_head isSign (head_no_sign nonempty all (suffix ++ rest))
  have noHexadecimal : startsHexadecimal (digits ++ (suffix ++ rest)) = false :=
    no_startsHexadecimal all (ends.of_class_suffix isSuffix continuesNumber_of_isX rfl)
      (fun empty => absurd empty nonempty)
  simp only [readNumber, split, noHexadecimal, Bool.false_eq_true, if_false]

theorem readNumber_marked {sign rest : List Char} {x : Char} (isSign : IsSign sign)
    (isX : x = 'x' ∨ x = 'X') :
    readNumber (sign ++ '0' :: x :: rest) =
      readHexadecimal (sign ++ '0' :: x :: rest) (sign = ['-']) rest := by
  have split : splitSign (sign ++ '0' :: x :: rest) = (sign, '0' :: x :: rest) :=
    splitSign_append_of_head isSign rfl
  have starts := startsHexadecimal_iff.mpr ⟨x, rest, isX, rfl⟩
  simp only [readNumber, split, starts, if_true, List.drop_succ_cons, List.drop_zero]

theorem readNumber_of_form {spelling rest : List Char} {value : Arg}
    (form : NumberForm spelling value) (ends : Ends rest) :
    readNumber (spelling ++ rest) = .ok (value, rest) := by
  cases form with
  | @decimal sign digits suffix isSign nonempty all isSuffix above below =>
    have found : Literal.integer? ⟨sign, digits, none, none⟩ =
        some (signed sign (decimalValue digits)) :=
      Literal.integer?_eq_some_iff.mpr ⟨nonempty, above, below, rfl⟩
    rw [List.append_assoc, List.append_assoc, readNumber_digits isSign nonempty all isSuffix ends,
      readDecimal_digits isSign all isSuffix ends, found]
  | @hexadecimal sign digits suffix x isSign isX nonempty all isSuffix bound =>
    simp only [List.append_assoc, List.cons_append]
    rw [readNumber_marked isSign isX, readHexadecimal_digits nonempty all isSuffix ends,
      if_pos bound]
  | @float l wellFormed isFloat nonempty =>
    -- Behind the whole digits comes a point, the letter of an exponent, or the end
    have noX : (fractionChars l.fraction ++ (exponentChars l.exponent ++ rest)).head?.any
        (fun c => c = 'x' || c = 'X') = false := by
      cases l.fraction with
      | none =>
        exact head_exponentChars wellFormed.exponent (p := fun c => c = 'x' || c = 'X') rfl rfl
          (ends.of_class continuesNumber_of_isX)
      | some digits => rfl
    -- A mantissa without whole digits has them behind a point
    have point : l.whole = [] → ∃ digits, l.fraction = some digits := by
      intro empty
      cases fraction : l.fraction with
      | none => simp [Literal.mantissa, empty, fraction] at nonempty
      | some digits => exact ⟨digits, rfl⟩
    have split : splitSign (l.sign ++ (l.whole ++
        (fractionChars l.fraction ++ (exponentChars l.exponent ++ rest)))) =
        (l.sign, l.whole ++
          (fractionChars l.fraction ++ (exponentChars l.exponent ++ rest))) := by
      apply splitSign_append_of_head wellFormed.sign
      by_cases empty : l.whole = []
      · obtain ⟨digits, fraction⟩ := point empty
        simp [empty, fraction, fractionChars]
      · exact head_no_sign empty wellFormed.whole _
    have noHexadecimal := no_startsHexadecimal wellFormed.whole noX (fun empty => by
      obtain ⟨digits, fraction⟩ := point empty
      simp [fraction, fractionChars])
    simp only [Literal.chars, List.append_assoc, readNumber, split, noHexadecimal,
      Bool.false_eq_true, if_false]
    exact readDecimal_of_float wellFormed isFloat nonempty ends _

theorem form_of_readNumber {cs rest : List Char} {value : Arg}
    (read : readNumber cs = .ok (value, rest)) :
    ∃ spelling, cs = spelling ++ rest ∧ NumberForm spelling value ∧ Ends rest := by
  have whole := splitSign_append cs
  have isSign := isSign_splitSign cs
  unfold readNumber at read
  simp only at read
  rw [← whole]
  split at read
  · next starts =>
    obtain ⟨x, tail, isX, unsigned⟩ := startsHexadecimal_iff.mp starts
    rw [unsigned] at read ⊢
    exact form_of_readHexadecimal isSign isX read
  · exact form_of_readDecimal isSign read

end AgentBus.Settings
