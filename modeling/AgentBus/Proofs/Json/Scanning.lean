import Mathlib.Data.List.Forall2
import AgentBus.Json.Read
import AgentBus.Json.Write
import AgentBus.Proofs.Protocol.RoundTrip

/-!
# Scanning written JSON

A value that is `Plain` holds no floats, gives every key of an object once, and is not nested too
deep. Its pretty text is cut into `Json.tokens` again (`cuts_prettyAt`).

What may follow a part of a text matters only behind a number, where it has to close: a written part
is followed by a comma, by the end of its line, by a closing bracket or by nothing.
-/

namespace AgentBus.Json

/-! ## Plain values and their tokens -/

/-- A value without floats whose arrays and objects are nested at most so deep. -/
inductive Plain : Nat → Json → Prop where
  | null {depth : Nat} : Plain depth .null
  | bool {depth : Nat} (value : Bool) : Plain depth (.bool value)
  | integer {depth : Nat} {value : Int} :
      Int64.minValue.toInt ≤ value → value < UInt64.size → Plain depth (.number (.integer value))
  | string {depth : Nat} (value : String) : Plain depth (.string value)
  | array {depth : Nat} {items : List Json} :
      (∀ item ∈ items, Plain depth item) → Plain (depth + 1) (.array items)
  | object {depth : Nat} {entries : List (String × Json)} :
      (entries.map Prod.fst).Nodup → (∀ entry ∈ entries, Plain depth entry.2) →
      Plain (depth + 1) (.object entries)

mutual

def tokens : Json → List Token
  | .null => [.null]
  | .bool value => [.bool value]
  | .number value => [.number value]
  | .string value => [.string value]
  | .array items => .openArray :: ([.comma].intercalate (itemTokens items) ++ [.closeArray])
  | .object entries => .openObject :: ([.comma].intercalate (entryTokens entries) ++ [.closeObject])

def itemTokens : List Json → List (List Token)
  | [] => []
  | item :: rest => tokens item :: itemTokens rest

def entryTokens : List (String × Json) → List (List Token)
  | [] => []
  | (key, value) :: rest => (.string key :: .colon :: tokens value) :: entryTokens rest

end

theorem itemTokens_eq_map (items : List Json) : itemTokens items = items.map tokens := by
  induction items with
  | nil => rfl
  | cons item rest ih => simp [itemTokens, ih]

theorem entryTokens_eq_map (entries : List (String × Json)) :
    entryTokens entries =
      entries.map fun entry => .string entry.1 :: .colon :: tokens entry.2 := by
  induction entries with
  | nil => rfl
  | cons entry rest ih => simp [entryTokens, ih]

theorem prettyItems_eq_map (level : Nat) (items : List Json) :
    prettyItems level items = items.map (prettyAt level) := by
  induction items with
  | nil => rfl
  | cons item rest ih => simp [prettyItems, ih]

theorem prettyEntries_eq_map (level : Nat) (entries : List (String × Json)) :
    prettyEntries level entries =
      entries.map fun entry => stringText entry.1 ++ ": " ++ prettyAt level entry.2 := by
  induction entries with
  | nil => rfl
  | cons entry rest ih => simp [prettyEntries, ih]

/-! ## Strings -/

theorem readEscape_letter {letter c : Char} (notUnit : letter ≠ 'u')
    (means : letterEscape? letter = some c) (rest : List Char) :
    readEscape (letter :: rest) = some (c, rest) := by
  rw [readEscape, if_neg notUnit, means]
  rfl

theorem readEscape_unit {c : Char} (control : c.toNat < 0x20) (rest : List Char) :
    readEscape
        ('u' :: '0' :: '0' :: Nat.digitChar (c.toNat / 16) :: Nat.digitChar (c.toNat % 16) ::
          rest) =
      some (c, rest) := by
  have zero : hexValue? '0' = some 0 := by decide
  have high := hexValue?_digitChar (c.toNat / 16) (by omega)
  have low := hexValue?_digitChar (c.toNat % 16) (by omega)
  have unit : ((0 * 16 + 0) * 16 + c.toNat / 16) * 16 + c.toNat % 16 = c.toNat := by omega
  have noHigh : isHighSurrogate c.toNat = false := by
    simp only [isHighSurrogate, Bool.and_eq_false_iff, decide_eq_false_iff_not]
    omega
  have noLow : isLowSurrogate c.toNat = false := by
    simp only [isLowSurrogate, Bool.and_eq_false_iff, decide_eq_false_iff_not]
    omega
  rw [readEscape, if_pos rfl, readCodePoint, readUnit, zero, high, low]
  simp only [unit, noHigh, noLow, Char.ofNat_toNat]
  rfl

theorem readString_escape {cs after : List Char} {c : Char}
    (read : readEscape cs = some (c, after)) :
    readString ('\\' :: cs) = (readString after).map fun read => (c :: read.1, read.2) := by
  rw [readString, if_neg (by decide), if_pos rfl]
  split
  · next failed => simp [read] at failed
  · next decoded after' found =>
    obtain ⟨rfl, rfl⟩ : c = decoded ∧ after = after' := by simpa [read] using found
    rfl

theorem readString_escapeChar (c : Char) (rest : List Char) :
    readString (escapeChar c ++ rest) =
      (readString rest).map fun read => (c :: read.1, read.2) := by
  unfold escapeChar
  -- Seven characters have an escape with one letter
  iterate 7
    split
    · next same =>
      subst same
      exact readString_escape (readEscape_letter (by decide) (by decide) rest)
  split
  · next control => exact readString_escape (readEscape_unit control rest)
  · next noQuote noBackslash _ _ _ _ _ noControl =>
    rw [List.singleton_append, readString, if_neg noQuote, if_neg noBackslash, if_neg noControl]

theorem readString_escaped (cs rest : List Char) :
    readString (cs.flatMap escapeChar ++ '"' :: rest) = some (cs, rest) := by
  induction cs with
  | nil => rw [List.flatMap_nil, List.nil_append, readString, if_pos rfl]
  | cons c cs ih =>
    rw [List.flatMap_cons, List.append_assoc, readString_escapeChar, ih]
    rfl

/-! ## Numbers -/

/-- What stands behind a number in a written text, if anything does. -/
def closers : List Char := [',', '\n', ']', '\x7d']

/-- What comes next does not go on with a number. -/
def Closes (rest : List Char) : Prop :=
  ∀ c ∈ rest.head?, c ∈ closers

theorem closes_cons {c : Char} (closer : c ∈ closers) (rest : List Char) : Closes (c :: rest) := by
  intro d head
  rw [← Option.some_inj.1 head]
  exact closer

theorem Closes.cases {rest : List Char} (closes : Closes rest) :
    rest = [] ∨ ∃ after,
      rest = ',' :: after ∨ rest = '\n' :: after ∨ rest = ']' :: after ∨
        rest = '\x7d' :: after := by
  cases rest with
  | nil => exact .inl rfl
  | cons c after =>
    have closer := closes c rfl
    simp only [closers, List.mem_cons, List.not_mem_nil, or_false] at closer
    refine .inr ⟨after, ?_⟩
    obtain rfl | rfl | rfl | rfl := closer
    all_goals simp

theorem Closes.head?_any {rest : List Char} (closes : Closes rest) {p : Char → Bool}
    (stops : ∀ c ∈ closers, p c = false) : rest.head?.any p = false := by
  cases rest with
  | nil => rfl
  | cons c rest => exact stops c (closes c rfl)

theorem readFraction_of_closes {rest : List Char} (closes : Closes rest) :
    readFraction rest = some (none, rest) := by
  obtain rfl | ⟨after, rfl | rfl | rfl | rfl⟩ := closes.cases
  all_goals rfl

theorem readExponent_of_closes {rest : List Char} (closes : Closes rest) :
    readExponent rest = some (none, rest) := by
  obtain rfl | ⟨after, rfl | rfl | rfl | rfl⟩ := closes.cases
  all_goals rfl

/-- The digits of a number begin with a zero only if it is zero. -/
theorem toDigits_eq_cons (n : Nat) :
    ∃ c rest, Nat.toDigits 10 n = c :: rest ∧ c.isDigit = true ∧ (c = '0' → rest = []) := by
  induction n using Nat.strongRecOn with
  | ind n ih =>
    by_cases small : n < 10
    · have one : (Nat.digitChar n).isDigit = true := by
        have all : ∀ n < 10, (Nat.digitChar n).isDigit = true := by decide
        exact all n small
      exact ⟨_, [], Nat.toDigits_of_lt_base small, one, fun _ => rfl⟩
    · obtain ⟨c, rest, digits, digit, zero⟩ := ih (n / 10) (by omega)
      refine ⟨c, rest ++ [(n % 10).digitChar], ?_, digit, ?_⟩
      · rw [Nat.toDigits_of_base_le (by decide) (by omega), digits]
        rfl
      · rintro rfl
        -- A quotient of at least one has no digits that read as zero
        have value := decimalValue_toDigits (n / 10)
        rw [digits, zero rfl] at value
        have none : n / 10 = 0 := value.symm
        omega

theorem readWhole_toDigits (n : Nat) {rest : List Char} (closes : Closes rest) :
    readWhole (Nat.toDigits 10 n ++ rest) = some (Nat.toDigits 10 n, rest) := by
  obtain ⟨c, digits, same, digit, zero⟩ := toDigits_eq_cons n
  rw [same, List.cons_append, readWhole]
  by_cases first : c = '0'
  · rw [if_pos first, zero first]
    rfl
  · have all : ∀ d ∈ digits, d.isDigit = true := by
      intro d member
      exact allDigits_toDigits n d (by rw [same]; exact List.mem_cons_of_mem c member)
    have stop : rest.head?.any Char.isDigit = false := closes.head?_any (by simp [closers])
    rw [if_neg first, if_pos digit, Settings.takeWhile_run all stop,
      Settings.dropWhile_run all stop]

theorem readUnsigned_toDigits (negative : Bool) {n : Nat} (value : Int)
    (signed : (if negative then -(n : Int) else n) = value) (notZero : negative = true → n ≠ 0)
    (lower : Int64.minValue.toInt ≤ value) (upper : value < UInt64.size) {rest : List Char}
    (closes : Closes rest) :
    readUnsigned negative (Nat.toDigits 10 n ++ rest) = some (.integer value, rest) := by
  have fits : number? negative (Nat.toDigits 10 n) none none = some (.integer value) := by
    unfold number?
    rw [decimalValue_toDigits, if_pos]
    · simp only [signed]
    · cases negative with
      | true => simp_all
      | false => simp_all
  rw [readUnsigned, readWhole_toDigits n closes]
  simp only [readFraction_of_closes closes, readExponent_of_closes closes, fits, Option.map_some]

/-! ## Texts -/

theorem scan_space {c : Char} (space : isSpace c = true) (rest : List Char) :
    scan (c :: rest) = scan rest := by
  rw [scan, if_pos space]

theorem scan_token {c : Char} {rest after : List Char} {token : Token} (ink : isSpace c = false)
    (read : readToken c rest = some (token, after)) :
    scan (c :: rest) = (scan after).map (token :: ·) := by
  rw [scan, if_neg (by simp [ink])]
  split
  · next failed => simp [read] at failed
  · next token' after' found =>
    obtain ⟨rfl, rfl⟩ : token = token' ∧ after = after' := by simpa [read] using found
    rfl

theorem scan_string (text : String) (rest : List Char) :
    scan ((stringText text).toList ++ rest) = (scan rest).map (.string text :: ·) := by
  have read : readToken '"' (text.toList.flatMap escapeChar ++ '"' :: rest) =
      some (.string text, rest) := by
    simp [readToken, readString_escaped]
  rw [stringText, String.toList_ofList, List.cons_append, List.append_assoc]
  exact scan_token (by decide) read

/-- A text is cut into these tokens, wherever it closes. -/
def Cuts (cs : List Char) (parts : List Token) : Prop :=
  ∀ rest, Closes rest → scan (cs ++ rest) = (scan rest).map (parts ++ ·)

theorem Cuts.scan_eq {cs : List Char} {parts : List Token} (cuts : Cuts cs parts) :
    scan cs = some parts := by
  have whole := cuts [] nofun
  rw [List.append_nil, scan, Option.map_some, List.append_nil] at whole
  exact whole

theorem cuts_nil : Cuts [] [] := by
  intro rest _
  simp

theorem cuts_digits {n : Nat} (bound : (n : Int) < UInt64.size) :
    Cuts (Nat.toDigits 10 n) [.number (.integer n)] := by
  intro rest closes
  obtain ⟨c, digits, same, digit, _⟩ := toDigits_eq_cons n
  have lower : Int64.minValue.toInt ≤ (n : Int) := by
    have least : Int64.minValue.toInt ≤ 0 := by decide
    omega
  have read := readUnsigned_toDigits false n rfl nofun lower bound closes
  rw [same, List.cons_append] at read ⊢
  have ne (d : Char) (no : d.isDigit = false) : c ≠ d := by
    rintro rfl
    simp [digit] at no
  apply scan_token
  · simp [isSpace, ne]
  · simp [readToken, ne, digit, read]

theorem cuts_negative {n : Nat} (positive : n ≠ 0) (bound : Int64.minValue.toInt ≤ -(n : Int)) :
    Cuts ('-' :: Nat.toDigits 10 n) [.number (.integer (-n))] := by
  intro rest closes
  have upper : -(n : Int) < UInt64.size := by omega
  have read := readUnsigned_toDigits true (-n) rfl (fun _ => positive) bound
    upper closes
  apply scan_token (by decide)
  simp [readToken, read]

theorem cuts_integer {value : Int} (lower : Int64.minValue.toInt ≤ value)
    (upper : value < UInt64.size) : Cuts (toString value).toList [.number (.integer value)] := by
  rw [Int.toString_eq_repr, Int.repr_eq_if, ← Nat.toString_eq_repr, ← Nat.toString_eq_repr]
  by_cases nonnegative : 0 ≤ value
  · have same : (value.toNat : Int) = value := Int.toNat_of_nonneg nonnegative
    rw [if_pos nonnegative, toList_toString_nat]
    have cuts := cuts_digits (n := value.toNat) (by omega)
    rw [same] at cuts
    exact cuts
  · have same : -((-value).toNat : Int) = value := by omega
    rw [if_neg nonnegative, String.toList_append, toList_toString_nat]
    have cuts := cuts_negative (n := (-value).toNat) (by omega) (by omega)
    rw [same] at cuts
    exact cuts

theorem cuts_bool (value : Bool) : Cuts (boolText value).toList [.bool value] := by
  intro rest _
  cases value with
  | true =>
    have letters : (boolText true).toList = ['t', 'r', 'u', 'e'] := rfl
    rw [letters]
    exact scan_token (by decide) rfl
  | false =>
    have letters : (boolText false).toList = ['f', 'a', 'l', 's', 'e'] := rfl
    rw [letters]
    exact scan_token (by decide) rfl

theorem cuts_null : Cuts "null".toList [.null] := by
  intro rest _
  have letters : "null".toList = ['n', 'u', 'l', 'l'] := rfl
  rw [letters]
  exact scan_token (by decide) rfl

theorem cuts_string (text : String) : Cuts (stringText text).toList [.string text] :=
  fun rest _ => scan_string text rest

/-! ## Parts one after another -/

section

variable {cs ds : List Char} {parts others : List Token}

theorem Cuts.append (first : Cuts cs parts) (second : Cuts ds others)
    (closes : ∀ rest, Closes (ds ++ rest)) : Cuts (cs ++ ds) (parts ++ others) := by
  intro rest closed
  rw [List.append_assoc, first _ (closes rest), second rest closed, Option.map_map]
  simp only [Function.comp_def, List.append_assoc]

/-- A character that is a token by itself. -/
theorem Cuts.token {c : Char} {token : Token} (ink : isSpace c = false)
    (read : ∀ rest, readToken c rest = some (token, rest)) (cuts : Cuts cs parts) :
    Cuts (c :: cs) (token :: parts) := by
  intro rest closes
  rw [List.cons_append, scan_token ink (read _), cuts rest closes, Option.map_map]
  rfl

/-- A text that is passed over. -/
def Blank (cs : List Char) : Prop :=
  ∀ rest, scan (cs ++ rest) = scan rest

theorem blank_nil : Blank [] :=
  fun _ => rfl

theorem Blank.space {c : Char} (space : isSpace c = true) (blank : Blank cs) : Blank (c :: cs) :=
  fun rest => (scan_space space (cs ++ rest)).trans (blank rest)

theorem blank_indent (level : Nat) : Blank (indent level).toList := by
  rw [indent, String.toList_ofList]
  induction 2 * level with
  | zero => exact blank_nil
  | succ width ih =>
    rw [List.replicate_succ]
    exact ih.space rfl

theorem Cuts.behind (cuts : Cuts ds parts) (blank : Blank cs) : Cuts (cs ++ ds) parts := by
  intro rest closes
  rw [List.append_assoc, blank, cuts rest closes]

end

/-- Parts with a comma behind each but the last, and blanks behind the commas. -/
theorem cuts_intercalate {separator : String} {blank : List Char}
    (spelled : separator.toList = ',' :: blank) (skipped : Blank blank) {texts : List String}
    {parts : List (List Token)}
    (cut : List.Forall₂ (fun text part => Cuts text.toList part) texts parts) :
    Cuts (separator.intercalate texts).toList ([.comma].intercalate parts) := by
  rw [String.toList_intercalate, spelled]
  induction cut with
  | nil => exact cuts_nil
  | @cons text part texts parts first later ih =>
    cases later with
    | nil =>
      rw [List.map_cons, List.map_nil, List.intercalate_singleton, List.intercalate_singleton]
      exact first
    | @cons text' part' texts parts second later =>
      rw [List.map_cons] at ih ⊢
      rw [List.map_cons, List.intercalate_cons_cons, List.intercalate_cons_cons, List.append_assoc,
        List.append_assoc]
      exact first.append (.token (by decide) (fun _ => rfl) (ih.behind skipped))
        (closes_cons (by decide))

/-- An entry of an object, with blanks behind its colon. -/
theorem Cuts.entry (key : String) {separator text : String} {blank : List Char}
    (spelled : separator.toList = ':' :: blank) (skipped : Blank blank) {part : List Token}
    (cuts : Cuts text.toList part) :
    Cuts (stringText key ++ separator ++ text).toList (.string key :: .colon :: part) := by
  have value : Cuts (':' :: (blank ++ text.toList)) (.colon :: part) :=
    .token (by decide) (fun _ => rfl) (cuts.behind skipped)
  intro rest closes
  rw [String.toList_append, String.toList_append, spelled, List.append_assoc, List.append_assoc,
    scan_string, ← List.append_assoc, List.cons_append, value rest closes, Option.map_map]
  rfl

/-! ## Blocks -/

theorem blank_newline : Blank ['\n'] :=
  blank_nil.space rfl

theorem cuts_block {level : Nat} (opening closing : Char) {openToken closeToken : Token}
    (opens : ∀ rest, readToken opening rest = some (openToken, rest))
    (closes : ∀ rest, readToken closing rest = some (closeToken, rest))
    (ink : isSpace opening = false ∧ isSpace closing = false)
    {texts : List String} {parts : List (List Token)}
    (cut : List.Forall₂ (fun text part => Cuts text.toList part) texts parts) :
    Cuts (block level (String.singleton opening) (String.singleton closing) texts).toList
      (openToken :: ([.comma].intercalate parts ++ [closeToken])) := by
  have close : Cuts [closing] [closeToken] := cuts_nil.token ink.2 closes
  have separator : ",\n".toList = [',', '\n'] := rfl
  have newline : "\n".toList = ['\n'] := rfl
  have indented : List.Forall₂ (fun text part => Cuts text.toList part)
      (texts.map (indent (level + 1) ++ ·)) parts := by
    rw [List.forall₂_map_left_iff]
    refine cut.imp fun text part cuts => ?_
    rw [String.toList_append]
    exact cuts.behind (blank_indent _)
  have lines := cuts_intercalate separator blank_newline indented
  have inside := lines.append ((close.behind (blank_indent level)).behind blank_newline)
    (closes_cons (by decide))
  unfold block
  split
  · next empty =>
    obtain rfl := List.isEmpty_iff.mp empty
    cases cut
    rw [String.toList_append, String.toList_singleton, String.toList_singleton]
    exact close.token ink.1 opens
  · simp only [String.toList_append, List.append_assoc, String.toList_singleton, newline]
    exact (inside.behind blank_newline).token ink.1 opens

theorem cuts_prettyAt {depth : Nat} {value : Json} (plain : Plain depth value) (level : Nat) :
    Cuts (prettyAt level value).toList (tokens value) := by
  induction plain generalizing level with
  | null => exact cuts_null
  | bool value => exact cuts_bool value
  | integer lower upper => exact cuts_integer lower upper
  | string value => exact cuts_string value
  | @array depth items _ ih =>
    rw [prettyAt, tokens, prettyItems_eq_map, itemTokens_eq_map]
    apply cuts_block '[' ']' (fun _ => rfl) (fun _ => rfl) (by decide)
    rw [List.forall₂_map_left_iff, List.forall₂_map_right_iff, List.forall₂_same]
    intro item member
    exact ih item member _
  | @object depth entries _ _ ih =>
    rw [prettyAt, tokens, prettyEntries_eq_map, entryTokens_eq_map]
    apply cuts_block '\x7b' '\x7d' (fun _ => rfl) (fun _ => rfl) (by decide)
    rw [List.forall₂_map_left_iff, List.forall₂_map_right_iff, List.forall₂_same]
    intro entry member
    exact .entry entry.1 rfl (blank_nil.space rfl) (ih entry member _)

theorem scan_pretty {depth : Nat} {value : Json} (plain : Plain depth value) :
    scan value.pretty.toList = some (tokens value) :=
  (cuts_prettyAt plain 0).scan_eq

end AgentBus.Json
