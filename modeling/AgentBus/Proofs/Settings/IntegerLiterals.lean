import AgentBus.Proofs.Settings.Tokens
import Mathlib.Algebra.Group.Int.Defs
import Mathlib.Algebra.Group.Nat.Defs

/-!
# Integer literals

An integer may be written with any number of digits. It is read as exactly the number that it writes
down, or refused at its first character: 64 bits have to hold the number, or, if its digits are
hexadecimal, 63 bits its magnitude. So the sign can always be put to a hexadecimal magnitude.

Main statement: `scan_integerLiteral`.
-/

namespace AgentBus.Settings

/-! ## Literals -/

inductive Radix where
  | decimal
  | hexadecimal

namespace Radix

/-- What stands between the sign and the digits. -/
def IsMark : Radix → List Char → Prop
  | .decimal, mark => mark = []
  | .hexadecimal, mark => ∃ x, (x = 'x' ∨ x = 'X') ∧ mark = ['0', x]

def isDigit : Radix → Char → Bool
  | .decimal => Char.isDigit
  | .hexadecimal => isHexDigit

def magnitude : Radix → List Char → Nat
  | .decimal => decimalValue
  | .hexadecimal => hexadecimalValue

end Radix

/-- An integer as it is written, with one digit or more. -/
structure IntegerLiteral where
  radix : Radix
  sign : List Char
  mark : List Char
  digits : List Char
  suffix : List Char
  isSign : IsSign sign
  isMark : radix.IsMark mark
  nonempty : digits ≠ []
  areDigits : ∀ c ∈ digits, radix.isDigit c = true
  isSuffix : IsSuffix suffix

namespace IntegerLiteral

def chars (l : IntegerLiteral) : List Char :=
  l.sign ++ (l.mark ++ (l.digits ++ l.suffix))

def magnitude (l : IntegerLiteral) : Nat :=
  l.radix.magnitude l.digits

/-- The number that is written down, however large it is. -/
def value (l : IntegerLiteral) : Int :=
  signed l.sign l.magnitude

/-- A hexadecimal magnitude is bounded before it gets its sign, a decimal number with its sign. -/
def InRange (l : IntegerLiteral) : Prop :=
  match l.radix with
  | .decimal => -2 ^ 63 ≤ l.value ∧ l.value < 2 ^ 63
  | .hexadecimal => l.magnitude < 2 ^ 63

/-- The number has 32 bits and was not asked to be long. -/
def IsNarrow (l : IntegerLiteral) : Prop :=
  l.suffix = [] ∧ -2 ^ 31 ≤ l.value ∧ l.value < 2 ^ 31

/-- What is reported for a number that is out of range. -/
def fault (l : IntegerLiteral) : Fault :=
  match l.radix with
  | .decimal => .invalidInteger (String.ofList (l.sign ++ l.digits))
  | .hexadecimal => .invalidHexInteger

/-! ## Values -/

theorem value_bounds {l : IntegerLiteral} (inRange : l.InRange) :
    -2 ^ 63 ≤ l.value ∧ l.value < 2 ^ 63 := by
  unfold InRange at inRange
  split at inRange
  · exact inRange
  · unfold value signed
    split <;> omega

/-- The machine can negate a hexadecimal magnitude that it holds. -/
theorem toInt_neg_magnitude {magnitude : Nat} (fits : magnitude < 2 ^ 63) :
    (Int64.ofInt magnitude).toInt = magnitude ∧ (-Int64.ofInt magnitude).toInt = -magnitude := by
  have exact : (Int64.ofInt magnitude).toInt = magnitude :=
    Int64.toInt_ofInt_of_le (by omega) (by omega)
  refine ⟨exact, ?_⟩
  rw [← Int64.ofInt_neg]
  exact Int64.toInt_ofInt_of_le (by omega) (by omega)

theorem ofInt_of_narrow {l : IntegerLiteral} (narrow : l.IsNarrow) :
    ∃ n : Int32, n.toInt = l.value ∧ Arg.ofInt l.value (l.suffix = ['L']) = .int n := by
  obtain ⟨short, above, below⟩ := narrow
  refine ⟨Int32.ofInt l.value, Int32.toInt_ofInt_of_le above below, ?_⟩
  unfold Arg.ofInt
  rw [if_pos]
  have most : l.value ≤ Int32.maxValue.toInt := Int.le_of_lt_add_one below
  simpa [short] using ⟨above, most⟩

theorem ofInt_of_wide {l : IntegerLiteral} (inRange : l.InRange) (wide : ¬ l.IsNarrow) :
    ∃ n : Int64, n.toInt = l.value ∧ Arg.ofInt l.value (l.suffix = ['L']) = .int64 n := by
  obtain ⟨above, below⟩ := value_bounds inRange
  refine ⟨Int64.ofInt l.value, Int64.toInt_ofInt_of_le above below, ?_⟩
  unfold Arg.ofInt
  rw [if_neg]
  intro fits
  simp only [Bool.and_eq_true, Bool.not_eq_true', decide_eq_false_iff_not,
    decide_eq_true_eq] at fits
  obtain ⟨⟨short, least⟩, most⟩ := fits
  exact wide ⟨l.isSuffix.resolve_right short, least, Int.lt_add_one_of_le most⟩

/-! ## Reading -/

theorem numberForm_of_inRange {l : IntegerLiteral} (inRange : l.InRange) :
    NumberForm l.chars (.ofInt l.value (l.suffix = ['L'])) := by
  obtain ⟨radix, sign, mark, digits, suffix, isSign, isMark, nonempty, areDigits, isSuffix⟩ := l
  cases radix with
  | decimal =>
    obtain rfl : mark = [] := isMark
    obtain ⟨above, below⟩ := inRange
    have form := NumberForm.decimal isSign nonempty areDigits isSuffix above
      (Int.le_of_lt_add_one below)
    rw [List.append_assoc] at form
    exact form
  | hexadecimal =>
    have bound : (hexadecimalValue digits : Int) ≤ Int64.maxValue.toInt :=
      Int.le_of_lt_add_one (Int.ofNat_lt.mpr inRange)
    obtain ⟨x, isX, rfl⟩ := isMark
    have form := NumberForm.hexadecimal isSign isX nonempty areDigits isSuffix bound
    rw [List.append_assoc] at form
    exact form

theorem readNumber_of_not_inRange {l : IntegerLiteral} (outOfRange : ¬ l.InRange)
    {rest : List Char} (ends : Ends rest) :
    readNumber (l.chars ++ rest) = .error ⟨l.chars ++ rest, l.fault⟩ := by
  obtain ⟨radix, sign, mark, digits, suffix, isSign, isMark, nonempty, areDigits, isSuffix⟩ := l
  cases radix with
  | decimal =>
    obtain rfl : mark = [] := isMark
    have noInteger : Literal.integer? ⟨sign, digits, none, none⟩ = none := by
      rw [Option.eq_none_iff_forall_ne_some]
      intro value found
      obtain ⟨-, above, below, rfl⟩ := Literal.integer?_eq_some_iff.mp found
      exact outOfRange ⟨above, Int.lt_add_one_of_le below⟩
    simp only [chars, List.nil_append, List.append_assoc]
    rw [readNumber_digits isSign nonempty areDigits isSuffix ends,
      readDecimal_digits isSign areDigits isSuffix ends, noInteger]
    rfl
  | hexadecimal =>
    obtain ⟨x, isX, rfl⟩ := isMark
    have large : ¬ (hexadecimalValue digits : Int) ≤ Int64.maxValue.toInt := by
      have most : Int64.maxValue.toInt = 2 ^ 63 - 1 := rfl
      have exceeds : ¬ hexadecimalValue digits < 2 ^ 63 := outOfRange
      omega
    simp only [chars, List.cons_append, List.nil_append, List.append_assoc]
    rw [readNumber_marked isSign isX, readHexadecimal_digits nonempty areDigits isSuffix ends,
      if_neg large]
    rfl

theorem head_chars (l : IntegerLiteral) : BeginsNumber l.chars := by
  obtain ⟨radix, sign, mark, digits, suffix, isSign, isMark, nonempty, areDigits, isSuffix⟩ := l
  cases radix with
  | decimal =>
    obtain rfl : mark = [] := isMark
    exact beginsNumber_of_sign isSign (beginsNumber_of_digits nonempty areDigits _)
  | hexadecimal =>
    obtain ⟨x, -, rfl⟩ := isMark
    exact beginsNumber_of_sign isSign ⟨'0', _, rfl, rfl⟩

/-- An integer in range is read as the number that it writes down, in 32 bits if it fits and in 64
if not or if it was asked to be long. One out of range is refused at its first character. A
hexadecimal magnitude in range can be negated. -/
theorem scan_integerLiteral (l : IntegerLiteral) {rest : List Char} (ends : Ends rest) :
    (l.InRange → l.IsNarrow → ∃ n : Int32, n.toInt = l.value ∧
      scan (l.chars ++ rest) = (scan rest).cons ⟨l.chars ++ rest, .scalar (.int n)⟩) ∧
    (l.InRange → ¬ l.IsNarrow → ∃ n : Int64, n.toInt = l.value ∧
      scan (l.chars ++ rest) = (scan rest).cons ⟨l.chars ++ rest, .scalar (.int64 n)⟩) ∧
    (¬ l.InRange → scan (l.chars ++ rest) = ⟨[], some ⟨l.chars ++ rest, l.fault⟩⟩) ∧
    (l.InRange → l.radix = .hexadecimal → ∃ m : Int64, m.toInt = l.magnitude ∧
      (-m).toInt = -l.magnitude) := by
  have stops (value : Arg) : Stops (.scalar value) rest := ⟨nofun, fun _ _ _ => ends⟩
  refine ⟨fun inRange narrow => ?_, fun inRange wide => ?_, fun outOfRange => ?_,
    fun inRange marked => ?_⟩
  · obtain ⟨n, exact, same⟩ := ofInt_of_narrow narrow
    refine ⟨n, exact, ?_⟩
    rw [← same]
    exact scan_of_spells (.number (numberForm_of_inRange inRange)) (stops _)
  · obtain ⟨n, exact, same⟩ := ofInt_of_wide inRange wide
    refine ⟨n, exact, ?_⟩
    rw [← same]
    exact scan_of_spells (.number (numberForm_of_inRange inRange)) (stops _)
  · obtain ⟨c, cs, split, start⟩ := l.head_chars
    have failed := readNumber_of_not_inRange outOfRange ends
    rw [split, List.cons_append] at failed ⊢
    have refused : readToken c (cs ++ rest) = .error ⟨c :: (cs ++ rest), l.fault⟩ := by
      rw [readToken_of_isNumberStart start, failed]
      rfl
    -- A space is never refused
    have noSpace : isSpace c = false := by
      cases space : isSpace c with
      | false => rfl
      | true =>
        rw [readToken_space space] at refused
        contradiction
    exact scan_stuck noSpace refused
  · unfold InRange at inRange
    rw [marked] at inRange
    exact ⟨_, toInt_neg_magnitude inRange⟩

/-- The least number of 64 bits. -/
def least : IntegerLiteral where
  radix := .decimal
  sign := ['-']
  mark := []
  digits := "9223372036854775808".toList
  suffix := []
  isSign := .inr (.inr rfl)
  isMark := rfl
  nonempty := by decide
  areDigits := List.all_eq_true.1 (by decide)
  isSuffix := .inl rfl

/-- The same number, with a magnitude that is too large for hexadecimal digits. -/
def leastMarked : IntegerLiteral where
  radix := .hexadecimal
  sign := ['-']
  mark := ['0', 'x']
  digits := "8000000000000000".toList
  suffix := []
  isSign := .inr (.inr rfl)
  isMark := ⟨'x', .inl rfl, rfl⟩
  nonempty := by decide
  areDigits := List.all_eq_true.1 (by decide)
  isSuffix := .inl rfl

theorem scan_integerLiteral_least :
    Ends [] ∧ least.value = -2 ^ 63 ∧ leastMarked.value = -2 ^ 63 ∧
      (∃ n : Int64, n.toInt = -2 ^ 63 ∧
        scan least.chars = ⟨[⟨least.chars, .scalar (.int64 n)⟩], none⟩) ∧
      scan leastMarked.chars = ⟨[], some ⟨leastMarked.chars, .invalidHexInteger⟩⟩ := by
  have ends : Ends [] := rfl
  have inRange : least.InRange := ⟨by decide, by decide⟩
  have wide : ¬ least.IsNarrow := fun narrow => absurd narrow.2.1 (by decide)
  have outOfRange : ¬ leastMarked.InRange := Nat.lt_irrefl (2 ^ 63)
  obtain ⟨n, exact, read⟩ := (scan_integerLiteral least ends).2.1 inRange wide
  have refused := (scan_integerLiteral leastMarked ends).2.2.1 outOfRange
  rw [List.append_nil, scan] at read
  rw [List.append_nil] at refused
  exact ⟨ends, by decide, by decide, ⟨n, exact, read⟩, refused⟩

end IntegerLiteral

end AgentBus.Settings
