import AgentBus.Proofs.Settings.Numbers

/-!
# The reader of tokens

`readToken` reads the tokens of the grammar: `readToken_of_spells` says that it takes a token that
stops where it does, and `spells_of_readToken` that it takes nothing else. Being the longest token
follows from both (`cut_of_stops`): a longer spelling would be read in two ways.

`scan_of_tokenizes` and `tokenizes_of_scan` carry this over to a whole text.
-/

namespace AgentBus.Settings

/-! ## Where tokens stop -/

/-- A name stops before a character that cannot be its own, and a number where it ends. -/
structure Stops (token : Token) (rest : List Char) : Prop where
  name : ∀ text, token = .name text → rest.head?.any isNameChar = false
  number : ∀ value, token = .scalar value → IsNumber value → Ends rest

theorem stops_nil (token : Token) : Stops token [] :=
  ⟨fun _ _ => rfl, fun _ _ _ => rfl⟩

/-- No token goes on behind a character that continues neither a name nor a number. -/
theorem stops_of_head {c : Char} (noName : isNameChar c = false)
    (noNumber : continuesNumber c = false) (token : Token) (rest : List Char) :
    Stops token (c :: rest) where
  name _ _ := by simpa using noName
  number _ _ _ := by simpa [Ends] using noNumber

theorem Stops.of_append {token : Token} {rest more : List Char} (nonempty : rest ≠ [])
    (stops : Stops token (rest ++ more)) : Stops token rest := by
  cases rest with
  | nil => exact absurd rfl nonempty
  | cons c rest => exact ⟨stops.name, stops.number⟩

/-! ## The first character -/

theorem not_isDigit_of_isAlpha {c : Char} (alpha : c.isAlpha = true) : c.isDigit = false := by
  have above : 'A'.val.toNat ≤ c.val.toNat := by
    obtain isUpper | isLower := Bool.or_eq_true_iff.mp alpha
    · exact UInt32.le_iff_toNat_le.mp (of_decide_eq_true isUpper).1
    · have least := of_decide_eq_true (Bool.and_eq_true_iff.mp isLower).1
      exact Nat.le_trans (by decide) (UInt32.le_iff_toNat_le.mp least)
  have nine : '9'.val.toNat = 57 := rfl
  have letter : 'A'.val.toNat = 65 := rfl
  simp only [Char.isDigit, Bool.and_eq_false_iff, decide_eq_false_iff_not,
    UInt32.le_iff_toNat_le, ge_iff_le]
  omega

theorem not_isNumberStart_of_isNameStart {c : Char} (start : isNameStart c = true) :
    isNumberStart c = false := by
  simp only [isNameStart, Bool.or_eq_true, decide_eq_true_eq] at start
  obtain alpha | rfl := start
  · have noMark : ∀ d : Char, d.isAlpha = false → c ≠ d := by
      rintro d no rfl
      simp [alpha] at no
    simp [isNumberStart, not_isDigit_of_isAlpha alpha, noMark '+' rfl, noMark '-' rfl,
      noMark '.' rfl]
  · rfl

theorem readToken_of_isNumberStart {c : Char} (start : isNumberStart c = true)
    (rest : List Char) :
    readToken c rest = (readNumber (c :: rest)).map fun read => (.scalar read.1, read.2) := by
  have noMark : ∀ d, isNumberStart d = false → c ≠ d := by
    rintro d no rfl
    simp [start] at no
  simp [readToken, start, noMark '=' rfl, noMark ':' rfl, noMark '(' rfl, noMark ')' rfl,
    noMark ',' rfl, noMark ';' rfl, noMark '"' rfl]

theorem readToken_of_isNameStart {c : Char} (start : isNameStart c = true) (rest : List Char) :
    readToken c rest =
      .ok (.name (String.ofList (c :: rest.takeWhile isNameChar)), rest.dropWhile isNameChar) := by
  have noMark : ∀ d, isNameStart d = false → c ≠ d := by
    rintro d no rfl
    simp [start] at no
  simp [readToken, start, not_isNumberStart_of_isNameStart start, noMark '=' rfl, noMark ':' rfl,
    noMark '(' rfl, noMark ')' rfl, noMark ',' rfl, noMark ';' rfl, noMark '"' rfl]

theorem isNumber_of_form {spelling : List Char} {value : Arg} (form : NumberForm spelling value) :
    IsNumber value := by
  have integer : ∀ n long, IsNumber (.ofInt n long) := by
    intro n long
    unfold Arg.ofInt
    split <;> trivial
  cases form with
  | decimal => exact integer _ _
  | hexadecimal => exact integer _ _
  | float => trivial

/-- The first character is one that numbers begin with. -/
def BeginsNumber (cs : List Char) : Prop :=
  ∃ c rest, cs = c :: rest ∧ isNumberStart c = true

theorem beginsNumber_of_sign {sign rest : List Char} (isSign : IsSign sign)
    (unsigned : BeginsNumber rest) : BeginsNumber (sign ++ rest) := by
  obtain rfl | rfl | rfl := isSign
  · exact unsigned
  · exact ⟨'+', rest, rfl, rfl⟩
  · exact ⟨'-', rest, rfl, rfl⟩

theorem beginsNumber_of_digits {digits : List Char} (nonempty : digits ≠ [])
    (all : AllDigits digits) (rest : List Char) : BeginsNumber (digits ++ rest) := by
  cases digits with
  | nil => exact absurd rfl nonempty
  | cons d digits =>
    exact ⟨d, digits ++ rest, rfl, by simp [isNumberStart, all d List.mem_cons_self]⟩

theorem head_of_numberForm {spelling : List Char} {value : Arg} (form : NumberForm spelling value) :
    BeginsNumber spelling := by
  cases form with
  | decimal isSign nonempty all =>
    rw [List.append_assoc]
    exact beginsNumber_of_sign isSign (beginsNumber_of_digits nonempty all _)
  | hexadecimal isSign =>
    rw [List.append_assoc]
    exact beginsNumber_of_sign isSign ⟨'0', _, rfl, rfl⟩
  | @float l wellFormed _ nonempty =>
    simp only [Literal.chars, List.append_assoc]
    apply beginsNumber_of_sign wellFormed.sign
    by_cases empty : l.whole = []
    · cases fraction : l.fraction with
      | none => simp [Literal.mantissa, empty, fraction] at nonempty
      | some digits => exact ⟨'.', _, by simp [empty, fractionChars]; rfl, rfl⟩
    · exact beginsNumber_of_digits empty wellFormed.whole _

/-! ## Tokens -/

/-- A token that stops where it does is read as it is written. -/
theorem readToken_of_spells {spelling rest : List Char} {token : Token}
    (spells : Spells spelling token) (stops : Stops token rest) :
    ∃ c cs, spelling = c :: cs ∧ readToken c (cs ++ rest) = .ok (token, rest) := by
  cases spells with
  | assign isAssign => exact ⟨_, [], rfl, by obtain rfl | rfl := isAssign <;> rfl⟩
  | opening => exact ⟨_, [], rfl, rfl⟩
  | closing => exact ⟨_, [], rfl, rfl⟩
  | comma => exact ⟨_, [], rfl, rfl⟩
  | semicolon => exact ⟨_, [], rfl, rfl⟩
  | @string spelling text written =>
    refine ⟨'"', spelling ++ ['"'], rfl, ?_⟩
    have read := readString_of_writtenText written ('"' :: (spelling ++ '"' :: rest)) rest
    simp [readToken, read, Except.map]
  | number form =>
    obtain ⟨c, cs, rfl, start⟩ := head_of_numberForm form
    refine ⟨c, cs, rfl, ?_⟩
    have read := readNumber_of_form form (stops.number _ rfl (isNumber_of_form form))
    rw [readToken_of_isNumberStart start, ← List.cons_append, read]
    rfl
  | name start all =>
    refine ⟨_, _, rfl, ?_⟩
    have stop := stops.name _ rfl
    rw [readToken_of_isNameStart start, takeWhile_run all stop, dropWhile_run all stop]

/-- What is read as a token of the language is written as one, and stops where it does. -/
theorem spells_of_readToken {c : Char} {rest after : List Char} {token : Token}
    (read : readToken c rest = .ok (token, after)) (supported : ∀ d, token ≠ .unsupported d) :
    ∃ spelling, c :: rest = spelling ++ after ∧ Spells spelling token ∧ Stops token after := by
  have mark : ∀ {spelled : Token},
      (.ok (spelled, rest) : Except Stuck (Token × List Char)) = .ok (token, after) →
      Spells [c] spelled → Stops spelled rest →
      ∃ spelling, c :: rest = spelling ++ after ∧ Spells spelling token ∧ Stops token after := by
    rintro spelled ⟨⟩ spells stops
    exact ⟨[c], rfl, spells, stops⟩
  -- The cases follow the tests of the reader, first the characters that are tokens on their own
  unfold readToken at read
  split at read
  · next isAssign => exact mark read (.assign (by simpa using isAssign)) ⟨nofun, nofun⟩
  split at read
  · next isMark => exact mark read (isMark ▸ .opening) ⟨nofun, nofun⟩
  split at read
  · next isMark => exact mark read (isMark ▸ .closing) ⟨nofun, nofun⟩
  split at read
  · next isMark => exact mark read (isMark ▸ .comma) ⟨nofun, nofun⟩
  split at read
  · next isMark => exact mark read (isMark ▸ .semicolon) ⟨nofun, nofun⟩
  split at read
  · next isQuote =>
    subst isQuote
    obtain ⟨text, readText, rfl⟩ :=
      eq_of_map_eq_ok (f := fun text => .scalar (.str (String.ofList text))) read
    obtain ⟨spelling, rfl, written⟩ := writtenText_of_readString readText
    refine ⟨'"' :: (spelling ++ ['"']), by simp, .string written, nofun, ?_⟩
    rintro value ⟨⟩ isNumber
    exact isNumber.elim
  split at read
  · obtain ⟨value, readValue, rfl⟩ := eq_of_map_eq_ok (f := .scalar) read
    obtain ⟨spelling, whole, form, ends⟩ := form_of_readNumber readValue
    exact ⟨spelling, whole, .number form, nofun, fun _ _ _ => ends⟩
  split at read
  · next start =>
    simp only [Except.ok.injEq, Prod.mk.injEq] at read
    obtain ⟨rfl, rfl⟩ := read
    exact ⟨c :: rest.takeWhile isNameChar, by simp, .name start (fun _ => mem_takeWhile),
      fun _ _ => head_dropWhile _ _, nofun⟩
  · simp only [Except.ok.injEq, Prod.mk.injEq] at read
    exact absurd read.1.symm (supported c)

/-! ## The longest token -/

/-- A token that stops where it does is the longest one at its place. -/
theorem cut_of_stops {spelling rest : List Char} {token : Token} (spells : Spells spelling token)
    (stops : Stops token rest) : Cut spelling rest token where
  spells := spells
  longest := by
    rintro other token' spells' ⟨tail, whole⟩
    -- A longer spelling, read alone, would give both tokens
    obtain ⟨more, rfl, rfl⟩ | ⟨more, rfl, rfl⟩ := List.append_eq_append_iff.mp whole
    · simp
    · by_cases longer : more = []
      · simp [longer]
      · obtain ⟨c, cs, rfl, read⟩ := readToken_of_spells spells (stops.of_append longer)
        obtain ⟨c', cs', same, read'⟩ := readToken_of_spells spells' (stops_nil token')
        simp only [List.cons_append, List.cons.injEq] at same
        obtain ⟨rfl, rfl⟩ := same
        rw [List.append_nil, read] at read'
        simp only [Except.ok.injEq, Prod.mk.injEq] at read'
        exact absurd read'.2 longer
  ends := stops.number

/-- The longest token stops where it does: a name would take one more character. -/
theorem stops_of_cut {spelling rest : List Char} {token : Token} (cut : Cut spelling rest token) :
    Stops token rest where
  name := by
    rintro text rfl
    cases rest with
    | nil => rfl
    | cons d rest =>
      cases cut.spells with
      | @name c cs start all =>
        cases continues : isNameChar d with
        | false => simpa using continues
        | true =>
          have spells : Spells (c :: (cs ++ [d])) (.name (String.ofList (c :: (cs ++ [d])))) := by
            apply Spells.name start
            intro x member
            rcases List.mem_append.mp member with member | member
            · exact all x member
            · rw [List.mem_singleton.mp member]
              exact continues
          -- The name with this character is a longer token at the same place
          have bound := cut.longest spells ⟨rest, by simp⟩
          simp only [List.length_cons, List.length_append, List.length_nil] at bound
          omega
  number := cut.ends

/-! ## The scan -/

theorem scan_space {c : Char} (space : isSpace c = true) (rest : List Char) :
    scan (c :: rest) = scan rest := by
  rw [scan, if_pos space]

theorem scan_spaces {spaces : List Char} (all : AllSpaces spaces) (rest : List Char) :
    scan (spaces ++ rest) = scan rest := by
  induction spaces with
  | nil => rfl
  | cons c spaces ih =>
    rw [List.cons_append, scan_space (all c List.mem_cons_self)]
    exact ih fun d member => all d (List.mem_cons_of_mem c member)

/-- Spaces are no tokens of the language. -/
theorem readToken_space {c : Char} (space : isSpace c = true) (rest : List Char) :
    readToken c rest = .ok (.unsupported c, rest) := by
  simp only [isSpace, Bool.or_eq_true, decide_eq_true_eq] at space
  obtain (((rfl | rfl) | rfl) | rfl) | rfl := space <;> rfl

theorem scan_token {c : Char} {rest after : List Char} {token : Token}
    (noSpace : isSpace c = false) (read : readToken c rest = .ok (token, after)) :
    scan (c :: rest) = (scan after).cons ⟨c :: rest, token⟩ := by
  rw [scan, if_neg (by simp [noSpace])]
  split
  · next failed => simp [read] at failed
  · next succeeded =>
    obtain ⟨rfl, rfl⟩ : token = _ ∧ after = _ := by simpa [read] using succeeded
    rfl

theorem scan_stuck {c : Char} {rest : List Char} {stuck : Stuck}
    (noSpace : isSpace c = false) (read : readToken c rest = .error stuck) :
    scan (c :: rest) = ⟨[], some stuck⟩ := by
  rw [scan, if_neg (by simp [noSpace])]
  split
  · next failed => rw [read] at failed; cases failed; rfl
  · next succeeded => simp [read] at succeeded

theorem not_unsupported_of_spells {spelling : List Char} {token : Token}
    (spells : Spells spelling token) (d : Char) : token ≠ .unsupported d := by
  rintro rfl
  cases spells

/-- A token that stops where it does is the first one that the scan finds. -/
theorem scan_of_spells {spelling rest : List Char} {token : Token} (spells : Spells spelling token)
    (stops : Stops token rest) :
    scan (spelling ++ rest) = (scan rest).cons ⟨spelling ++ rest, token⟩ := by
  obtain ⟨c, cs, rfl, read⟩ := readToken_of_spells spells stops
  -- The scan would skip a space, but no token begins with one
  have noSpace : isSpace c = false := by
    cases space : isSpace c with
    | false => rfl
    | true =>
      rw [readToken_space space] at read
      simp only [Except.ok.injEq, Prod.mk.injEq] at read
      exact absurd read.1.symm (not_unsupported_of_spells spells c)
  exact scan_token noSpace read

theorem scan_of_tokenizes {cs : List Char} {tokens : List Token} (cuts : Tokenizes cs tokens) :
    (scan cs).stop = none ∧ (scan cs).lexemes.map Lexeme.token = tokens := by
  induction cuts with
  | @done spaces all =>
    have scanned := scan_spaces all []
    rw [List.append_nil, scan] at scanned
    rw [scanned]
    exact ⟨rfl, rfl⟩
  | @token spaces spelling rest token tokens all cut _ ih =>
    rw [scan_spaces all, scan_of_spells cut.spells (stops_of_cut cut)]
    exact ⟨ih.1, by simp [Scan.cons, ih.2]⟩

theorem Tokenizes.space {c : Char} {cs : List Char} {tokens : List Token}
    (space : isSpace c = true) (cuts : Tokenizes cs tokens) : Tokenizes (c :: cs) tokens := by
  have longer : ∀ {spaces : List Char}, AllSpaces spaces → AllSpaces (c :: spaces) := by
    intro spaces all d member
    cases member with
    | head => exact space
    | tail _ member => exact all d member
  cases cuts with
  | done all => exact .done (longer all)
  | token all cut cuts => exact .token (longer all) cut cuts

theorem Tokenizes.cons {spelling rest : List Char} {token : Token} {tokens : List Token}
    (spells : Spells spelling token) (stops : Stops token rest) (cuts : Tokenizes rest tokens) :
    Tokenizes (spelling ++ rest) (token :: tokens) := by
  have noSpaces : AllSpaces [] := fun _ => nofun
  exact .token noSpaces (cut_of_stops spells stops) cuts

/-- A text that is scanned to its end is cut into the tokens that the scan found, if they are all
of the language. -/
theorem tokenizes_of_scan {cs : List Char} (finished : (scan cs).stop = none)
    (supported : ∀ lexeme ∈ (scan cs).lexemes, ∀ d, lexeme.token ≠ .unsupported d) :
    Tokenizes cs ((scan cs).lexemes.map Lexeme.token) := by
  induction cs using scan.induct with
  | case1 =>
    rw [scan]
    exact .done (fun _ => nofun)
  | case2 c rest space ih =>
    rw [scan_space space] at *
    exact (ih finished supported).space space
  | case3 c rest noSpace stuck read =>
    rw [scan_stuck (by simpa using noSpace) read] at finished
    cases finished
  | case4 c rest noSpace token after read ih =>
    rw [scan_token (by simpa using noSpace) read] at *
    obtain ⟨spelling, whole, spells, stops⟩ :=
      spells_of_readToken read (supported ⟨c :: rest, token⟩ List.mem_cons_self)
    have cuts := ih finished fun lexeme member => supported lexeme (List.mem_cons_of_mem _ member)
    rw [whole]
    exact .cons spells stops cuts

end AgentBus.Settings
