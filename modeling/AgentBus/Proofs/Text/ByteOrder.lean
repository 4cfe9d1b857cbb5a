import Mathlib.Algebra.Group.Nat.Defs
import AgentBus.Proofs.Channel.Lines

/-!
# Texts are ordered as their bytes

UTF-8 keeps the order of characters: a lesser character has the lesser encoding, at the first byte
if the encodings are not equally long (`utf8EncodeChar_lt`). So texts compare as their bytes do
(`bytes_lt`).
-/

namespace AgentBus.Text

open Console (encode)
open String (utf8EncodeChar)

/-! ## Characters -/

/-- How many bytes follow the first one in the encoding of a code point. -/
def following (v : Nat) : Nat :=
  if v ≤ 127 then 0 else if v ≤ 2047 then 1 else if v ≤ 65535 then 2 else 3

/-- The first byte of the encoding of a code point. -/
def lead (v : Nat) : Nat :=
  if v ≤ 127 then v
  else if v ≤ 2047 then v / 64 + 192
  else if v ≤ 65535 then v / 64 ^ 2 + 224
  else v / 64 ^ 3 + 240

/-- The last bytes of an encoding: so many digits to the base 64. -/
def continuation (v : Nat) : Nat → List UInt8
  | 0 => []
  | count + 1 => UInt8.ofNat (v / 64 ^ count % 64 + 128) :: continuation v count

theorem toNat_lt (c : Char) : c.toNat < 0x110000 := by
  have valid := c.valid
  simp only [UInt32.isValidChar, Nat.isValidChar] at valid
  simp only [Char.toNat]
  omega

theorem utf8EncodeChar_eq (c : Char) :
    utf8EncodeChar c =
      UInt8.ofNat (lead c.toNat) :: continuation c.toNat (following c.toNat) := by
  have last := toNat_lt c
  unfold utf8EncodeChar lead following
  simp only [Char.toNat] at *
  -- The first byte of an encoding has room for all the digits that are left
  split
  · rfl
  split
  · rw [Nat.mod_eq_of_lt (show c.val.toNat / 64 < 32 by omega)]
    simp only [continuation, Nat.pow_zero, Nat.div_one]
  split
  · rw [Nat.mod_eq_of_lt (show c.val.toNat / 4096 < 16 by omega)]
    simp only [continuation, Nat.pow_zero, Nat.div_one, Nat.reducePow]
  · rw [Nat.mod_eq_of_lt (show c.val.toNat / 262144 < 8 by omega)]
    simp only [continuation, Nat.pow_zero, Nat.div_one, Nat.reducePow]

section

variable {m n : Nat} (less : m < n)

include less

theorem continuation_lt {count : Nat} (same : m / 64 ^ count = n / 64 ^ count) (x y : List UInt8) :
    continuation m count ++ x < continuation n count ++ y := by
  induction count with
  | zero =>
    rw [Nat.pow_zero, Nat.div_one, Nat.div_one] at same
    omega
  | succ count ih =>
    rw [Nat.pow_succ, ← Nat.div_div_eq_div_mul, ← Nat.div_div_eq_div_mul] at same
    have ascending : m / 64 ^ count ≤ n / 64 ^ count := Nat.div_le_div_right (Nat.le_of_lt less)
    rw [continuation, continuation, List.cons_append, List.cons_append, List.cons_lt_cons_iff,
      UInt8.lt_iff_toNat_lt, UInt8.toNat_ofNat', UInt8.toNat_ofNat']
    rcases Nat.lt_or_eq_of_le ascending with before | equal
    · exact .inl (by omega)
    · exact .inr ⟨by rw [equal], ih equal⟩

/-- The first byte of a greater code point is greater, or both encodings are equally long and differ
in a later digit. -/
theorem lead_cases (last : n < 0x110000) :
    lead m < lead n ∧ lead n < 256 ∨
      lead m = lead n ∧ following m = following n ∧
        m / 64 ^ following m = n / 64 ^ following m := by
  grind [lead, following]

end

/-- The lesser of two characters has the lesser encoding, whatever follows. -/
theorem utf8EncodeChar_lt {c d : Char} (less : c < d) (x y : List UInt8) :
    utf8EncodeChar c ++ x < utf8EncodeChar d ++ y := by
  have order : c.toNat < d.toNat := less
  rw [utf8EncodeChar_eq, utf8EncodeChar_eq, List.cons_append, List.cons_append,
    List.cons_lt_cons_iff, UInt8.lt_iff_toNat_lt, UInt8.toNat_ofNat', UInt8.toNat_ofNat']
  rcases lead_cases order (toNat_lt d) with ⟨first, byte⟩ | ⟨first, size, digits⟩
  · exact .inl (by omega)
  · rw [first, ← size]
    exact .inr ⟨rfl, continuation_lt order digits x y⟩

/-! ## Texts -/

theorem encode_lt {first second : List Char} (less : first < second) :
    encode first < encode second := by
  induction first generalizing second with
  | nil =>
    cases second with
    | nil => exact absurd less (List.lt_irrefl [])
    | cons d second =>
      rw [encode, encode, List.flatMap_nil, List.flatMap_cons, utf8EncodeChar_eq]
      exact List.nil_lt_cons _ _
  | cons c first ih =>
    cases second with
    | nil => contradiction
    | cons d second =>
      rw [encode, encode, List.flatMap_cons, List.flatMap_cons]
      rcases List.cons_lt_cons_iff.1 less with head | ⟨rfl, later⟩
      · exact utf8EncodeChar_lt head _ _
      · exact List.append_left_lt (ih later)

/-- The lesser of two texts has the lesser bytes. -/
theorem bytes_lt {first second : String} (less : first < second) : bytes first < bytes second := by
  rw [Console.bytes_eq, Console.bytes_eq]
  exact encode_lt (String.lt_iff.1 less)

theorem bytes_le {first second : String} (ascending : first ≤ second) :
    bytes first ≤ bytes second := by
  by_cases less : first < second
  · exact List.le_of_lt (bytes_lt less)
  · rw [String.le_antisymm ascending (String.not_lt.1 less)]
    exact List.le_refl _

theorem bytes_injective {first second : String} (same : bytes first = bytes second) :
    first = second := by
  apply String.le_antisymm
  · exact String.not_lt.1 fun greater => List.lt_irrefl _ (same ▸ bytes_lt greater)
  · exact String.not_lt.1 fun less => List.lt_irrefl _ (same ▸ bytes_lt less)

end AgentBus.Text
