import Mathlib.Algebra.Group.Nat.Defs
import AgentBus.Protocol.Frame
import AgentBus.Proofs.Settings.Spelling

/-!
# Frames are read back

A frame without raw data is one line, and reading that line as settings gives back the frame: its
keyword, its id, its status and its parts, character for character.

* `writtenText_quote` — quoting writes a text as the grammar of strings has it.
* `numberForm_toString` — a number is shown as the grammar of numbers has it.
* `tokenizes_render`, `settingsForm_frame` — a frame's line is cut into the tokens of one setting.
* `read_render` — the round trip.
-/

namespace AgentBus

open Settings

/-! ## Lines -/

def NoControl (cs : List Char) : Prop :=
  ∀ c ∈ cs, Text.isControl c = false

theorem NoControl.append {cs ds : List Char} (left : NoControl cs) (right : NoControl ds) :
    NoControl (cs ++ ds) := by
  intro c member
  obtain member | member := List.mem_append.mp member
  · exact left c member
  · exact right c member

theorem noControl_of_all {cs : List Char} (all : cs.all (fun c => !Text.isControl c) = true) :
    NoControl cs := by
  intro c member
  simpa using List.all_eq_true.mp all c member

theorem not_isControl_of_isDigit {c : Char} (digit : c.isDigit = true) :
    Text.isControl c = false := by
  simp only [Char.isDigit, Bool.and_eq_true, decide_eq_true_eq, UInt32.le_iff_toNat_le,
    ge_iff_le] at digit
  have zero : '0'.val.toNat = 48 := rfl
  have nine : '9'.val.toNat = 57 := rfl
  have same : c.toNat = c.val.toNat := rfl
  simp only [Text.isControl, Bool.or_eq_false_iff, Bool.and_eq_false_iff,
    decide_eq_false_iff_not]
  omega

/-! ## Quoted texts -/

theorem hexValue?_digitChar : ∀ n < 16, hexValue? (Nat.digitChar n) = some n := by
  decide

theorem not_isControl_digitChar : ∀ n < 16, Text.isControl (Nat.digitChar n) = false := by
  decide

theorem toNat_lt_of_isControl {c : Char} (control : Text.isControl c = true) : c.toNat < 160 := by
  simp only [Text.isControl, Bool.or_eq_true, Bool.and_eq_true, decide_eq_true_eq] at control
  omega

/-- A character is quoted as one of the ways to write it. -/
theorem written_quoteChar (c : Char) : Written (quoteChar c) c := by
  unfold quoteChar
  -- Six characters have an escape with one letter
  iterate 6
    split
    · next letter =>
      subst letter
      exact .letter (by simp [letterEscapes])
  split
  · next control =>
    have bound := toNat_lt_of_isControl control
    have high := hexValue?_digitChar (c.toNat / 16) (by omega)
    have low := hexValue?_digitChar (c.toNat % 16) (by omega)
    -- The two digits are the quotient and the remainder by sixteen
    have written := Written.hexadecimal high low
    rw [Nat.div_add_mod, Char.ofNat_toNat] at written
    exact written
  · next noQuote noBackslash _ _ _ _ _ => exact .plain noQuote noBackslash

theorem writtenText_quote (cs : List Char) : WrittenText (cs.flatMap quoteChar) cs := by
  induction cs with
  | nil => exact .nil
  | cons c cs ih => exact .cons (written_quoteChar c) ih

theorem spells_quote (text : String) : Spells (quote text).toList (.scalar (.str text)) := by
  have spells := Spells.string (writtenText_quote text.toList)
  rw [String.ofList_toList] at spells
  rw [quote, String.toList_ofList]
  exact spells

/-- Whatever a character is, it stands on one line once it is quoted. -/
theorem noControl_quoteChar (c : Char) : NoControl (quoteChar c) := by
  unfold quoteChar
  iterate 6
    split
    · exact noControl_of_all rfl
  split
  · next control =>
    have bound := toNat_lt_of_isControl control
    intro d member
    simp only [twoHexDigits, List.mem_cons, List.not_mem_nil, or_false] at member
    obtain rfl | rfl | rfl | rfl := member
    · rfl
    · rfl
    · exact not_isControl_digitChar _ (by omega)
    · exact not_isControl_digitChar _ (by omega)
  · next noControl =>
    intro d member
    rw [List.mem_singleton.mp member]
    simpa using noControl

theorem noControl_quote (text : String) : NoControl (quote text).toList := by
  rw [quote, String.toList_ofList]
  intro c member
  obtain rfl | member := List.mem_cons.mp member
  · rfl
  obtain member | member := List.mem_append.mp member
  · obtain ⟨d, _, quoted⟩ := List.mem_flatMap.mp member
    exact noControl_quoteChar d c quoted
  · rw [List.mem_singleton.mp member]
    rfl

/-! ## Numbers -/

theorem toList_toString_nat (n : Nat) : (toString n).toList = Nat.toDigits 10 n := by
  rw [Nat.toString_eq_ofList_toDigits, String.toList_ofList]

theorem allDigits_toDigits (n : Nat) : AllDigits (Nat.toDigits 10 n) :=
  fun _ member => Nat.isDigit_of_mem_toDigits (by decide) (by decide) member

theorem decimalValue_toDigits (n : Nat) : decimalValue (Nat.toDigits 10 n) = n := by
  have value := Nat.ofDigitChars_ten_toDigits (n := n)
  rw [Nat.ofDigitChars_eq_foldl] at value
  exact value

theorem numberForm_toDigits {sign : List Char} (isSign : IsSign sign) {n : Nat}
    (lower : Int64.minValue.toInt ≤ signed sign n) (upper : signed sign n ≤ Int64.maxValue.toInt) :
    NumberForm (sign ++ Nat.toDigits 10 n) (.ofInt (signed sign n) false) := by
  have value := decimalValue_toDigits n
  have form := NumberForm.decimal isSign Nat.toDigits_ne_nil (allDigits_toDigits n) (.inl rfl)
    (by rw [value]; exact lower) (by rw [value]; exact upper)
  rw [value, List.append_nil] at form
  exact form

/-- A number is shown by its digits, with a minus sign in front if it is negative. -/
theorem numberForm_toString {z : Int} (lower : Int64.minValue.toInt ≤ z)
    (upper : z ≤ Int64.maxValue.toInt) : NumberForm (toString z).toList (.ofInt z false) := by
  rw [Int.toString_eq_repr, Int.repr_eq_if, ← Nat.toString_eq_repr, ← Nat.toString_eq_repr]
  by_cases nonnegative : 0 ≤ z
  · have same : signed [] z.toNat = z := Int.toNat_of_nonneg nonnegative
    have form := numberForm_toDigits (.inl rfl) (same.symm ▸ lower) (same.symm ▸ upper)
    rw [if_pos nonnegative, toList_toString_nat]
    rw [same] at form
    exact form
  · have same : signed ['-'] (-z).toNat = z := by
      simp only [signed, if_true]
      omega
    have form := numberForm_toDigits (.inr (.inr rfl)) (same.symm ▸ lower) (same.symm ▸ upper)
    rw [if_neg nonnegative, String.toList_append, toList_toString_nat]
    rw [same] at form
    exact form

theorem noControl_toString_nat (n : Nat) : NoControl (toString n).toList := by
  rw [toList_toString_nat]
  exact fun c member => not_isControl_of_isDigit (allDigits_toDigits n c member)

theorem noControl_toString (z : Int) : NoControl (toString z).toList := by
  rw [Int.toString_eq_repr, Int.repr_eq_if, ← Nat.toString_eq_repr, ← Nat.toString_eq_repr]
  split
  · exact noControl_toString_nat _
  · rw [String.toList_append]
    exact (noControl_of_all rfl).append (noControl_toString_nat _)

/-- The id of a frame as it is read back. -/
def idArg (id : Nat) : Arg :=
  if id < 2 ^ 31 then .int (Int32.ofNat id) else .int64 (Int64.ofNat id)

theorem ofInt_id (id : Nat) : Arg.ofInt id false = idArg id := by
  have least : Int32.minValue.toInt = -2 ^ 31 := rfl
  have greatest : Int32.maxValue.toInt = 2 ^ 31 - 1 := rfl
  unfold Arg.ofInt idArg
  by_cases narrow : id < 2 ^ 31
  · rw [if_pos narrow, if_pos (by simp [least, greatest]; omega)]
    rfl
  · rw [if_neg narrow, if_neg (by simp [least, greatest]; omega)]
    rfl

/-- A status is shown as a narrow number, its code. -/
theorem numberForm_status (status : Status) : NumberForm status.text.toList (.int status.code) := by
  have lower := status.code.minValue_le_toInt
  have upper := status.code.toInt_le
  have form := numberForm_toString (Int.le_trans (by decide) lower)
    (Int.le_trans upper (by decide))
  rw [ofInt_toInt] at form
  exact form

/-! ## The tokens of a frame -/

def partTokens : List String → List Token
  | [] => []
  | [part] => [.scalar (.str part)]
  | part :: parts => .scalar (.str part) :: .comma :: partTokens parts

theorem scalarForm_string (text : String) : ScalarForm [.scalar (.str text)] (.str text) := by
  have form : ScalarForm ([text].map fun text => .scalar (.str text)) (.str (String.join [text])) :=
    .strings nofun
  rw [String.join_cons, String.join_nil, String.append_empty] at form
  exact form

theorem itemsForm_partTokens (part : String) (parts : List String) :
    ItemsForm (partTokens (part :: parts)) ((part :: parts).map .str) := by
  induction parts generalizing part with
  | nil => exact .last (scalarForm_string part)
  | cons next parts ih => exact .more (scalarForm_string part) (ih next)

theorem tokenizes_parts (part : String) (parts : List String) :
    Tokenizes ((", ".intercalate ((part :: parts).map quote)).toList ++ [' ', ')'])
      (partTokens (part :: parts) ++ [.closing]) := by
  induction parts generalizing part with
  | nil =>
    have close : Tokenizes [' ', ')'] [.closing] :=
      .space rfl (.cons .closing ⟨nofun, nofun⟩ (.done fun _ => nofun))
    exact .cons (spells_quote part) (stops_of_head rfl rfl _ _) close
  | cons next parts ih =>
    rw [List.map_cons, List.map_cons, String.intercalate_cons_cons]
    simp only [String.toList_append, List.append_assoc]
    apply Tokenizes.cons (spells_quote part) (stops_of_head rfl rfl _ _)
    exact .cons .comma ⟨nofun, nofun⟩ (.space rfl (ih next))

def frameTokens (kind : FrameKind) (id : Nat) (code : Int32) (parts : List String) : List Token :=
  .name kind.keyword :: .assign :: .opening :: .scalar (idArg id) :: .comma ::
    .scalar (.int code) :: .comma :: (partTokens parts ++ [.closing])

theorem spells_keyword (kind : FrameKind) : Spells kind.keyword.toList (.name kind.keyword) := by
  cases kind with
  | answer => exact .name rfl (List.all_eq_true.mp rfl)
  | event => exact .name rfl (List.all_eq_true.mp rfl)

theorem renderedParts_ne_nil (body : FrameBody) (kind : FrameKind) :
    body.renderedParts kind ≠ [] := by
  unfold FrameBody.renderedParts
  split
  · nofun
  · next nonempty => simpa using nonempty

theorem toList_render {body : FrameBody} (noData : body.isData = false) (kind : FrameKind)
    (id : Nat) :
    (body.render kind id).toList =
      kind.keyword.toList ++ (' ' :: '=' :: ' ' :: '(' :: ' ' :: ((toString id).toList ++
        (',' :: ' ' :: (body.status.text.toList ++
          (',' :: ' ' :: ((", ".intercalate ((body.renderedParts kind).map quote)).toList ++
            [' ', ')'])))))) := by
  unfold FrameBody.render
  rw [if_neg (by simp [noData])]
  simp only [String.toList_append, List.append_assoc]
  rfl

theorem tokenizes_render {body : FrameBody} (noData : body.isData = false) (kind : FrameKind)
    {id : Nat} (bound : id < 2 ^ 63) :
    Tokenizes (body.render kind id).toList
      (frameTokens kind id body.status.code (body.renderedParts kind)) := by
  have idForm : NumberForm (toString id).toList (idArg id) := by
    have greatest : Int64.maxValue.toInt = 2 ^ 63 - 1 := rfl
    have least : Int64.minValue.toInt = -2 ^ 63 := rfl
    have form : NumberForm (toString (id : Int)).toList (.ofInt id false) :=
      numberForm_toString (by omega) (by omega)
    rw [ofInt_id] at form
    exact form
  have partsCut : Tokenizes
      ((", ".intercalate ((body.renderedParts kind).map quote)).toList ++ [' ', ')'])
      (partTokens (body.renderedParts kind) ++ [.closing]) := by
    obtain ⟨part, parts, split⟩ := List.exists_cons_of_ne_nil (renderedParts_ne_nil body kind)
    rw [split]
    exact tokenizes_parts part parts
  -- Token after token: the name and the numbers stop at the space or the comma behind them
  rw [toList_render noData]
  apply Tokenizes.cons (spells_keyword kind) (stops_of_head rfl rfl _ _)
  apply Tokenizes.space rfl
  apply Tokenizes.cons (.assign (.inl rfl)) ⟨nofun, nofun⟩
  apply Tokenizes.space rfl
  apply Tokenizes.cons .opening ⟨nofun, nofun⟩
  apply Tokenizes.space rfl
  apply Tokenizes.cons (.number idForm) (stops_of_head rfl rfl _ _)
  apply Tokenizes.cons .comma ⟨nofun, nofun⟩
  apply Tokenizes.space rfl
  apply Tokenizes.cons (.number (numberForm_status _)) (stops_of_head rfl rfl _ _)
  apply Tokenizes.cons .comma ⟨nofun, nofun⟩
  apply Tokenizes.space rfl
  exact partsCut

/-! ## The round trip -/

/-- The parts of a frame, or one sentinel if it has none. -/
def FrameBody.partsOr (body : FrameBody) (sentinel : String) : List String :=
  match body.parts with
  | [] => [sentinel]
  | part :: parts => part :: parts

theorem renderedParts_eq (body : FrameBody) (kind : FrameKind) :
    body.renderedParts kind = body.partsOr kind.sentinel := by
  unfold FrameBody.renderedParts FrameBody.partsOr
  cases body.parts with
  | nil => rfl
  | cons part parts => rfl

/-- The one setting that a frame is: its keyword, and its id, status and parts. -/
def frameSetting (kind : FrameKind) (id : Nat) (body : FrameBody) : Setting :=
  ⟨kind.keyword,
    .list (idArg id :: .int body.status.code :: (body.partsOr kind.sentinel).map .str)⟩

theorem settingsForm_single {tokens : List Token} {value : SettingValue} (name : String)
    (form : ValueForm tokens value) :
    SettingsForm (.name name :: .assign :: tokens) [⟨name, value⟩] := by
  have single : SettingsForm (.name name :: .assign :: (tokens ++ ([] ++ []))) [⟨name, value⟩] :=
    .cons form (.inl rfl) .nil
  rw [List.append_nil, List.append_nil] at single
  exact single

theorem settingsForm_frame (kind : FrameKind) (id : Nat) (body : FrameBody) :
    SettingsForm (frameTokens kind id body.status.code (body.renderedParts kind))
      [frameSetting kind id body] := by
  have idForm : ScalarForm [.scalar (idArg id)] (idArg id) := by
    apply ScalarForm.number
    unfold idArg
    split <;> trivial
  have codeForm : ScalarForm [.scalar (.int body.status.code)] (.int body.status.code) :=
    .number trivial
  have partsForm : ItemsForm (partTokens (body.renderedParts kind))
      ((body.renderedParts kind).map .str) := by
    obtain ⟨part, parts, split⟩ := List.exists_cons_of_ne_nil (renderedParts_ne_nil body kind)
    rw [split]
    exact itemsForm_partTokens part parts
  rw [frameSetting, ← renderedParts_eq]
  exact settingsForm_single _ (.list (.more idForm (.more codeForm partsForm)))

theorem noControl_parts (parts : List String) :
    NoControl (", ".intercalate (parts.map quote)).toList := by
  induction parts with
  | nil => exact noControl_of_all rfl
  | cons part parts ih =>
    cases parts with
    | nil => exact noControl_quote part
    | cons next parts =>
      rw [List.map_cons, List.map_cons, String.intercalate_cons_cons, String.toList_append,
        String.toList_append]
      exact ((noControl_quote part).append (noControl_of_all rfl)).append ih

theorem noControl_render {body : FrameBody} (noData : body.isData = false) (kind : FrameKind)
    (id : Nat) : NoControl (body.render kind id).toList := by
  have keyword : NoControl kind.keyword.toList := by
    cases kind with
    | answer => exact noControl_of_all rfl
    | event => exact noControl_of_all rfl
  have separator : NoControl [',', ' '] := noControl_of_all rfl
  have closing : NoControl [' ', ')'] := noControl_of_all rfl
  have parts := (noControl_parts (body.renderedParts kind)).append closing
  have status := noControl_toString body.status.code.toInt
  have afterId := separator.append (status.append (separator.append parts))
  have afterKeyword : NoControl [' ', '=', ' ', '(', ' '] := noControl_of_all rfl
  rw [toList_render noData]
  exact keyword.append (afterKeyword.append ((noControl_toString_nat id).append afterId))

theorem read_frame {body : FrameBody} (noData : body.isData = false) (kind : FrameKind) {id : Nat}
    (bound : id < 2 ^ 63) :
    Settings.read (body.render kind id) = .ok [frameSetting kind id body] :=
  read_of_isSettings ⟨_, tokenizes_render noData kind bound, settingsForm_frame kind id body⟩

/-- Reading undoes rendering: the line of an answer or event without raw data holds no control
character, and is read as the one setting that carries its id, its status and its parts. -/
theorem read_render :
    (∀ answer : Answer, answer.body.isData = false →
      NoControl answer.render.toList ∧
        Settings.read answer.render =
          .ok [⟨"IH", .list (idArg answer.id.toNat :: .int answer.body.status.code ::
            (answer.body.partsOr "BUG: empty answer").map .str)⟩]) ∧
    (∀ event : Event, event.body.isData = false → event.id.toNat < 2 ^ 63 →
      NoControl event.render.toList ∧
        Settings.read event.render =
          .ok [⟨"EVENT", .list (idArg event.id.toNat :: .int event.body.status.code ::
            (event.body.partsOr "BUG: empty event").map .str)⟩]) := by
  constructor
  · intro answer noData
    have bound : answer.id.toNat < 2 ^ 63 :=
      Nat.lt_of_lt_of_le answer.id.toNat_lt (by decide)
    exact ⟨noControl_render noData .answer _, read_frame noData .answer bound⟩
  · intro event noData bound
    exact ⟨noControl_render noData .event _, read_frame noData .event bound⟩

/-- An event with a wide id, a negative status and a part that needs quoting. -/
theorem read_render_wide_event :
    Settings.read "EVENT = ( 2147483648, -5, \"a\\\"b\\x01\", \"\" )" =
      .ok [⟨"EVENT", .list [.int64 2147483648, .int (-5), .str "a\"b\x01", .str ""]⟩] := by
  have rendered : Event.render ⟨2147483648, ⟨⟨-5⟩, ["a\"b\x01", ""], false⟩⟩ =
      "EVENT = ( 2147483648, -5, \"a\\\"b\\x01\", \"\" )" := by decide
  rw [← rendered]
  exact (read_render.2 _ rfl (by decide)).2

end AgentBus
