import AgentBus.Channel.Console

/-!
# Lines of a text

The console reads its input as bytes: it cuts them at the newlines and then reads each line as
UTF-8. Of an input that is the encoding of a text this gives the lines of the text, since the bytes
of a newline and of a carriage return stand for nothing else (`Console.lines_bytes`).
-/

namespace AgentBus

/-- The bytes of a text in UTF-8. -/
def Text.bytes (text : String) : List UInt8 :=
  text.toUTF8.data.toList

namespace Console

/-- A line as characters, without the end of line that closes it. -/
def closeText (line : List Char) : List Char :=
  if line.getLast? = some '\r' then line.dropLast else line

/-- The lines of a text. What follows the last newline is a line if it is not empty. -/
def textLines (text : String) : List String :=
  let pieces := Text.pieces '\n' text.toList
  let last := (pieces.getLast?).getD []
  (pieces.dropLast.map closeText ++ (if last = [] then [] else [last])).map String.ofList

/-! ## The bytes of a character -/

open String (utf8EncodeChar)

abbrev encode (text : List Char) : List UInt8 :=
  text.flatMap utf8EncodeChar

theorem bytes_eq (text : String) : Text.bytes text = encode text.toList := by
  obtain ⟨chars, rfl⟩ : ∃ chars, text = String.ofList chars :=
    ⟨text.toList, String.ofList_toList.symm⟩
  rw [String.toList_ofList]
  exact List.toList_data_toByteArray

theorem utf8EncodeChar_ascii {c : Char} (ascii : c.toNat < 128) :
    utf8EncodeChar c = [UInt8.ofNat c.toNat] :=
  if_pos (Nat.le_of_lt_succ ascii)

/-- All bytes of a longer encoding have the highest bit set. -/
theorem le_of_mem_utf8EncodeChar {c : Char} (long : ¬ c.toNat < 128) :
    ∀ byte ∈ utf8EncodeChar c, 128 ≤ byte.toNat := by
  have big : ¬ c.val.toNat ≤ 127 := fun small => long (Nat.lt_succ_of_le small)
  unfold utf8EncodeChar
  dsimp only
  rw [if_neg big]
  split
  · simp only [List.mem_cons, List.not_mem_nil, or_false, forall_eq_or_imp, forall_eq,
      UInt8.toNat_ofNat']
    omega
  split
  · simp only [List.mem_cons, List.not_mem_nil, or_false, forall_eq_or_imp, forall_eq,
      UInt8.toNat_ofNat']
    omega
  · simp only [List.mem_cons, List.not_mem_nil, or_false, forall_eq_or_imp, forall_eq,
      UInt8.toNat_ofNat']
    omega

/-- A byte below 128 is the code of a character by itself, and occurs in no other. -/
theorem mem_utf8EncodeChar {byte : UInt8} (ascii : byte.toNat < 128) {c : Char}
    (member : byte ∈ utf8EncodeChar c) : c.toNat = byte.toNat := by
  by_cases small : c.toNat < 128
  · rw [utf8EncodeChar_ascii small, List.mem_singleton] at member
    rw [member, UInt8.toNat_ofNat']
    omega
  · exact absurd ascii (Nat.not_lt.mpr (le_of_mem_utf8EncodeChar small byte member))

/-! ## Cutting -/

theorem pieces_ne_nil {α : Type} [DecidableEq α] (separator : α) (list : List α) :
    Text.pieces separator list ≠ [] := by
  cases list with
  | nil => exact List.cons_ne_nil _ _
  | cons a rest =>
    rw [Text.pieces]
    split
    · exact List.cons_ne_nil _ _
    · split
      · exact List.cons_ne_nil _ _
      · exact List.cons_ne_nil _ _

/-- What stands before the first separator belongs to the first piece. -/
theorem pieces_append {α : Type} [DecidableEq α] {separator : α} {front : List α}
    (none : separator ∉ front) {rest piece : List α} {others : List (List α)}
    (cut : Text.pieces separator rest = piece :: others) :
    Text.pieces separator (front ++ rest) = (front ++ piece) :: others := by
  induction front with
  | nil => exact cut
  | cons a front ih =>
    rw [List.mem_cons, not_or] at none
    rw [List.cons_append, Text.pieces, if_neg (Ne.symm none.1), ih none.2]
    rfl

/-- Cutting the bytes of a text at the newlines is cutting the text at the newlines. -/
theorem pieces_encode (text : List Char) :
    Text.pieces 0x0a (encode text) = (Text.pieces '\n' text).map encode := by
  induction text with
  | nil => rfl
  | cons c rest ih =>
    rw [encode, List.flatMap_cons, Text.pieces]
    by_cases newline : c = '\n'
    · subst newline
      rw [if_pos rfl, List.map_cons, ← ih]
      rfl
    · rw [if_neg newline]
      -- So none of the bytes of this character separates anything
      have none : (0x0a : UInt8) ∉ utf8EncodeChar c := fun member =>
        newline (Char.toNat_inj.mp (mem_utf8EncodeChar (by decide) member))
      cases cut : Text.pieces '\n' rest with
      | nil => exact absurd cut (pieces_ne_nil _ _)
      | cons piece others =>
        rw [cut, List.map_cons] at ih
        exact pieces_append none ih

/-! ## Lines -/

theorem lineText?_encode (line : List Char) :
    lineText? (encode line) = some (String.ofList line) := by
  have bytes : (⟨(encode line).toArray⟩ : ByteArray) = line.utf8Encode :=
    ByteArray.ext List.data_toByteArray.symm
  rw [lineText?, bytes]
  exact dif_pos ⟨line, rfl⟩

theorem readable_map_encode (lines : List (List Char)) :
    readable (lines.map encode) = lines.map String.ofList := by
  induction lines with
  | nil => rfl
  | cons line rest ih => rw [List.map_cons, readable, lineText?_encode, ih, List.map_cons]

theorem encode_eq_nil_iff {line : List Char} : encode line = [] ↔ line = [] := by
  cases line with
  | nil => exact ⟨fun _ => rfl, fun _ => rfl⟩
  | cons c rest => simp [encode, String.utf8EncodeChar_ne_nil]

theorem closeLine_encode (line : List Char) :
    closeLine (encode line) = encode (closeText line) := by
  obtain rfl | ⟨front, c, rfl⟩ := line.eq_nil_or_concat
  · rfl
  rw [List.concat_eq_append, closeLine, closeText, List.getLast?_concat, List.dropLast_concat]
  by_cases returns : c = '\r'
  · subst returns
    have bytes : encode (front ++ ['\r']) = encode front ++ [0x0d] := List.flatMap_append
    rw [bytes, List.getLast?_concat, List.dropLast_concat, if_pos rfl, if_pos rfl]
  · have none : (encode (front ++ [c])).getLast? ≠ some 0x0d := by
      intro last
      have own : (utf8EncodeChar c).getLast? = some 0x0d := by
        cases has : (utf8EncodeChar c).getLast? with
        | none => exact absurd (List.getLast?_eq_none_iff.mp has) String.utf8EncodeChar_ne_nil
        | some byte =>
          rwa [encode, List.flatMap_append, List.flatMap_singleton, List.getLast?_append, has,
            Option.some_or] at last
      exact returns (Char.toNat_inj.mp (mem_utf8EncodeChar (by decide) (List.mem_of_getLast? own)))
    rw [if_neg none, if_neg fun same => returns (Option.some.inj same)]

/-- The lines that are read from the bytes of a text are the lines of the text. -/
theorem lines_bytes (text : String) : lines (Text.bytes text) = textLines text := by
  rw [lines, byteLines, bytes_eq, pieces_encode, textLines]
  generalize Text.pieces '\n' text.toList = pieces
  have closed : (pieces.map encode).dropLast.map closeLine =
      (pieces.dropLast.map closeText).map encode := by
    rw [← List.map_dropLast, List.map_map, List.map_map]
    exact List.map_congr_left fun line _ => closeLine_encode line
  have last : ((pieces.map encode).getLast?).getD [] = encode ((pieces.getLast?).getD []) := by
    rw [List.getLast?_map]
    cases pieces.getLast? <;> rfl
  rw [closed, last]
  by_cases empty : (pieces.getLast?).getD [] = []
  · rw [if_pos (encode_eq_nil_iff.mpr empty), if_pos empty, List.append_nil, List.append_nil,
      readable_map_encode]
  · rw [if_neg fun none => empty (encode_eq_nil_iff.mp none), if_neg empty,
      ← readable_map_encode, List.map_append]
    rfl

end Console

end AgentBus
