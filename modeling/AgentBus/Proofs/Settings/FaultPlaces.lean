import AgentBus.Proofs.Settings.Reading

/-!
# Where a fault is found

A text that is no sequence of settings is refused with the place where its reading got stuck. A
wrong escape is reported at its backslash. Anything else is reported at the first token that does
not fit, at the end of the text, or where a token begins that cannot be read to its end, and what
stands before such a place can be completed to a text of settings.

The two levels are treated apart. `Begins` says of the reader that the lexemes before the place of
its complaint begin something of a form, which a few more tokens complete. `CutBefore` says of the
scan that the text before the place is cut into these lexemes, whatever comes behind it.

Main statement: `place_of_fault`.
-/

namespace AgentBus

open Settings (Spells isNumberStart)

/-! ## Faults and what stands at their places -/

namespace Fault

/-- The faults of an escape in a string. -/
inductive OfEscape : Fault → Prop where
  | unterminated : OfEscape .unterminatedEscape
  | hexadecimal : OfEscape .invalidHexEscape
  | unknown (c : Char) : OfEscape (.unknownEscape c)

inductive OfNumber : Fault → Prop where
  | hexadecimal : OfNumber .invalidHexInteger
  | exponent : OfNumber .missingExponent
  | boundary : OfNumber .malformedNumber
  | float (literal : String) : OfNumber (.invalidFloat literal)
  | integer (literal : String) : OfNumber (.invalidInteger literal)

/-- The faults of a token that does not fit where it stands. -/
inductive OfToken : Fault → Token → Prop where
  | name (found : Token) : OfToken (.expectedName found) found
  | assign (found : Token) : OfToken (.expectedAssign found) found
  | scalar (found : Token) : OfToken (.expectedScalar found) found
  | separator (found : Token) : OfToken (.expectedSeparator found) found
  | nested : OfToken .nestedList .opening

/-- The faults of a text that ends too early. -/
inductive OfEnd : Fault → Prop where
  | assign : OfEnd .endBeforeAssign
  | value : OfEnd .endBeforeValue
  | list : OfEnd .unterminatedList

/-- The characters of a token, or one that begins none. -/
inductive Shows : List Char → Token → Prop where
  | spelled {spelling : List Char} {token : Token} : Spells spelling token → Shows spelling token
  | unsupported (c : Char) : Shows [c] (.unsupported c)

/-- What stands where a fault is found. -/
inductive StandsAt : Fault → List Char → Prop where
  | escape {fault : Fault} {rest : List Char} : fault.OfEscape → StandsAt fault ('\\' :: rest)
  | string {rest : List Char} : StandsAt .unterminatedString ('"' :: rest)
  | number {fault : Fault} {c : Char} {rest : List Char} : fault.OfNumber →
      isNumberStart c = true → StandsAt fault (c :: rest)
  | token {fault : Fault} {token : Token} {spelling rest : List Char} : fault.OfToken token →
      Shows spelling token → StandsAt fault (spelling ++ rest)
  | finish {fault : Fault} : fault.OfEnd → StandsAt fault []

theorem StandsAt.backslash {fault : Fault} {place : List Char} (stands : fault.StandsAt place)
    (isEscape : fault.OfEscape) : ∃ rest, place = '\\' :: rest := by
  cases stands with
  | escape => exact ⟨_, rfl⟩
  | string => cases isEscape
  | number ofNumber => cases ofNumber <;> cases isEscape
  | token ofToken => cases ofToken <;> cases isEscape
  | finish ofEnd => cases ofEnd <;> cases isEscape

end Fault

namespace Settings

/-! ## Complaints of the reader -/

/-- What can be complained about where these lexemes are left: the first of them, or if none is
left, what the scan stopped at or else the end of the text. -/
inductive Complaint (stop : Option Stuck) : List Lexeme → Stuck → Prop where
  | lexeme {next : Lexeme} {rest : List Lexeme} {fault : Fault} : fault.OfToken next.token →
      Complaint stop (next :: rest) ⟨next.start, fault⟩
  | scan {stuck : Stuck} : stop = some stuck → Complaint stop [] stuck
  | finish {fault : Fault} : stop = none → fault.OfEnd → Complaint stop [] ⟨[], fault⟩

theorem complaint_atEnd {α : Type} {stop : Option Stuck} {fault : Fault} {stuck : Stuck}
    (failed : (atEnd stop fault : Except Stuck α) = .error stuck) (ofEnd : fault.OfEnd) :
    Complaint stop [] stuck := by
  obtain rfl := Except.error.inj failed
  cases stop with
  | none => exact .finish rfl ofEnd
  | some stuck => exact .scan rfl

/-- The tokens that complete what has begun; each is written with one character. -/
inductive Filler : Char → Token → Prop where
  | assign : Filler '=' .assign
  | closing : Filler ')' .closing
  | one : Filler '1' (.scalar (.int 1))

def Fillers (tokens : List Token) : Prop :=
  ∀ token ∈ tokens, ∃ c, Filler c token

theorem fillers_nil : Fillers [] :=
  nofun

theorem Fillers.cons {c : Char} {token : Token} {tokens : List Token} (filler : Filler c token)
    (fillers : Fillers tokens) : Fillers (token :: tokens) :=
  List.forall_mem_cons.mpr ⟨⟨c, filler⟩, fillers⟩

theorem scalarForm_one : ScalarForm [.scalar (.int 1)] (.int 1) :=
  .number trivial

/-- The lexemes before the place of a complaint are the first tokens of something of a form. -/
def Begins (form : List Token → Prop) (stop : Option Stuck) (lexemes : List Lexeme)
    (stuck : Stuck) : Prop :=
  ∃ before after ending, lexemes = before ++ after ∧ Complaint stop after stuck ∧
    Fillers ending ∧ form (tokensOf before ++ ending)

section Begins

variable {form : List Token → Prop} {stop : Option Stuck} {lexemes : List Lexeme} {stuck : Stuck}

/-- At the very first lexeme nothing has to be right. -/
theorem begins_here {ending : List Token} (complaint : Complaint stop lexemes stuck)
    (fillers : Fillers ending) (complete : form ending) : Begins form stop lexemes stuck :=
  ⟨[], lexemes, ending, rfl, complaint, fillers, complete⟩

theorem Begins.behind {larger : List Token → Prop} (begins : Begins form stop lexemes stuck)
    (front : List Lexeme) (grows : ∀ tokens, form tokens → larger (tokensOf front ++ tokens)) :
    Begins larger stop (front ++ lexemes) stuck := by
  obtain ⟨before, after, ending, rfl, complaint, fillers, complete⟩ := begins
  refine ⟨front ++ before, after, ending, (List.append_assoc ..).symm, complaint, fillers, ?_⟩
  have whole := grows _ complete
  rwa [tokensOf, List.map_append, List.append_assoc]

end Begins

/-- The lexemes that were read are those before the lexemes that are left. -/
theorem exists_front {lexemes after : List Lexeme} {tokens : List Token}
    (isSuffix : after <:+ lexemes) (split : tokensOf lexemes = tokens ++ tokensOf after) :
    ∃ front, lexemes = front ++ after ∧ tokensOf front = tokens := by
  obtain ⟨front, rfl⟩ := isSuffix
  refine ⟨front, rfl, ?_⟩
  rw [tokensOf, List.map_append] at split
  exact List.append_cancel_right split

theorem Plain.of_suffix {lexemes after : List Lexeme} (plain : Plain (tokensOf lexemes))
    (isSuffix : after <:+ lexemes) : Plain (tokensOf after) :=
  fun value member => plain value ((isSuffix.map Lexeme.token).subset member)

/-! ## Each reader -/

theorem complaint_of_readScalar {first : Lexeme} {rest : List Lexeme} {stuck : Stuck}
    (stop : Option Stuck) (failed : readScalar first rest = .error stuck) :
    Complaint stop (first :: rest) stuck := by
  unfold readScalar at failed
  split at failed
  · contradiction
  · contradiction
  · split at failed
    · contradiction
    · split at failed
      · contradiction
      · cases failed
        exact .lexeme (.scalar first.token)
  · cases failed
    exact .lexeme (.scalar first.token)

/-- The items of a list up to its closing parenthesis. -/
def ClosedItems (tokens : List Token) : Prop :=
  ∃ items values, tokens = items ++ [.closing] ∧ ItemsForm items values

/-- What may stand behind an item of a list. -/
inductive BehindItem : List Token → Prop where
  | closing : BehindItem [.closing]
  | comma {others : List Token} : ClosedItems others → BehindItem (.comma :: others)

theorem closedItems_of_scalar {item tokens : List Token} {value : Arg}
    (form : ScalarForm item value) (behind : BehindItem tokens) : ClosedItems (item ++ tokens) := by
  cases behind with
  | closing => exact ⟨item, _, rfl, .last form⟩
  | comma closed =>
    obtain ⟨others, values, rfl, formOthers⟩ := closed
    exact ⟨item ++ .comma :: others, _, by simp, .more form formOthers⟩

theorem closedItems_one : ClosedItems [.scalar (.int 1), .closing] :=
  closedItems_of_scalar scalarForm_one .closing

theorem fillers_item : Fillers [.scalar (.int 1), .closing] :=
  .cons .one (.cons .closing fillers_nil)

theorem begins_of_item {stop : Option Stuck} {first : Lexeme} {rest after : List Lexeme}
    {value : Arg} {stuck : Stuck} (plain : Plain (tokensOf (first :: rest)))
    (item : readScalar first rest = .ok (value, after))
    (begins : Begins BehindItem stop after stuck) :
    Begins ClosedItems stop (first :: rest) stuck := by
  obtain ⟨tokens, split, form⟩ := form_of_readScalar plain item
  have isSuffix := (readScalar_suffix item).trans (List.suffix_cons first rest)
  obtain ⟨front, whole, rfl⟩ := exists_front isSuffix split
  rw [whole]
  exact begins.behind front fun tokens => closedItems_of_scalar form

theorem begins_of_readItems {stop : Option Stuck} {lexemes : List Lexeme} {stuck : Stuck}
    (plain : Plain (tokensOf lexemes)) (failed : readItems stop lexemes = .error stuck) :
    Begins ClosedItems stop lexemes stuck := by
  fun_induction readItems stop lexemes generalizing stuck with
  | case1 => exact begins_here (complaint_atEnd failed .list) fillers_item closedItems_one
  | case2 first rest isOpening =>
    cases failed
    exact begins_here (.lexeme (isOpening ▸ .nested)) fillers_item closedItems_one
  | case3 first rest _ _ item =>
    cases failed
    exact begins_here (complaint_of_readScalar stop item) fillers_item closedItems_one
  | case4 first rest _ value item =>
    refine begins_of_item plain item ?_
    exact begins_here (complaint_atEnd failed .list) (.cons .closing fillers_nil) .closing
  | case5 first rest _ value next tail item isComma _ others ih =>
    cases failed
    have isSuffix := ((List.suffix_cons next tail).trans (readScalar_suffix item)).trans
      (List.suffix_cons first rest)
    have begins := ih (plain.of_suffix isSuffix) others
    refine begins_of_item plain item (begins.behind [next] ?_)
    intro tokens closed
    rw [tokensOf_cons, isComma]
    exact .comma closed
  | case6 => contradiction
  | case7 => contradiction
  | case8 first rest _ value next tail item noComma noClosing =>
    cases failed
    refine begins_of_item plain item ?_
    exact begins_here (.lexeme (.separator next.token)) (.cons .closing fillers_nil) .closing

theorem begins_of_readList {stop : Option Stuck} {lexemes : List Lexeme} {stuck : Stuck}
    (plain : Plain (tokensOf lexemes)) (failed : readList stop lexemes = .error stuck) :
    Begins ClosedItems stop lexemes stuck := by
  unfold readList at failed
  split at failed
  · exact begins_of_readItems plain failed
  · split at failed
    · contradiction
    · exact begins_of_readItems plain failed

def IsValue (tokens : List Token) : Prop :=
  ∃ value, ValueForm tokens value

theorem isValue_one : IsValue [.scalar (.int 1)] :=
  ⟨_, .scalar scalarForm_one⟩

theorem isValue_of_closedItems {tokens : List Token} (closed : ClosedItems tokens) :
    IsValue (.opening :: tokens) := by
  obtain ⟨items, values, rfl, form⟩ := closed
  exact ⟨_, .list form⟩

theorem error_of_map_eq_error {α β : Type} {read : Except Stuck α} {f : α → β} {stuck : Stuck}
    (failed : read.map f = .error stuck) : read = .error stuck := by
  cases read with
  | error found => exact congrArg Except.error (Except.error.inj failed)
  | ok found => contradiction

theorem begins_of_readValue {stop : Option Stuck} {lexemes : List Lexeme} {stuck : Stuck}
    (plain : Plain (tokensOf lexemes)) (failed : readValue stop lexemes = .error stuck) :
    Begins IsValue stop lexemes stuck := by
  have fillers : Fillers [.scalar (.int 1)] := .cons .one fillers_nil
  unfold readValue at failed
  split at failed
  · exact begins_here (complaint_atEnd failed .value) fillers isValue_one
  · next first rest =>
    split at failed
    · next isOpening =>
      have failedList := error_of_map_eq_error failed
      have begins := begins_of_readList (plain.of_suffix (List.suffix_cons first rest)) failedList
      refine begins.behind [first] fun tokens closed => ?_
      rw [tokensOf_cons, isOpening]
      exact isValue_of_closedItems closed
    · have complaint := complaint_of_readScalar stop (error_of_map_eq_error failed)
      exact begins_here complaint fillers isValue_one

/-- A value behind its assignment sign. -/
def Assigned (tokens : List Token) : Prop :=
  ∃ value, tokens = .assign :: value ∧ IsValue value

theorem begins_of_readAssigned {stop : Option Stuck} {lexemes : List Lexeme} {stuck : Stuck}
    (plain : Plain (tokensOf lexemes)) (failed : readAssigned stop lexemes = .error stuck) :
    Begins Assigned stop lexemes stuck := by
  have fillers : Fillers [.assign, .scalar (.int 1)] := .cons .assign (.cons .one fillers_nil)
  have assigned : Assigned [.assign, .scalar (.int 1)] := ⟨_, rfl, isValue_one⟩
  unfold readAssigned at failed
  split at failed
  · exact begins_here (complaint_atEnd failed .assign) fillers assigned
  · next first rest =>
    split at failed
    · next isAssign =>
      have failedValue := error_of_map_eq_error failed
      have begins := begins_of_readValue (plain.of_suffix (List.suffix_cons first rest)) failedValue
      refine begins.behind [first] fun tokens isValue => ?_
      rw [tokensOf_cons, isAssign]
      exact ⟨tokens, rfl, isValue⟩
    · cases failed
      exact begins_here (.lexeme (.assign first.token)) fillers assigned

def AreSettings (tokens : List Token) : Prop :=
  ∃ settings, SettingsForm tokens settings

/-- Lexemes that are refused begin settings, up to the place of the complaint. -/
theorem begins_of_readSettings {stop : Option Stuck} {lexemes : List Lexeme} {stuck : Stuck}
    (plain : Plain (tokensOf lexemes)) (failed : readSettings stop lexemes = .error stuck) :
    Begins AreSettings stop lexemes stuck := by
  have nothing : AreSettings [] := ⟨[], .nil⟩
  fun_induction readSettings stop lexemes generalizing stuck with
  | case1 => contradiction
  | case2 found stopped =>
    cases failed
    exact begins_here (.scan stopped) fillers_nil nothing
  | case3 first rest name isName found assigned =>
    cases failed
    have begins := begins_of_readAssigned (plain.of_suffix (List.suffix_cons first rest)) assigned
    refine begins.behind [first] fun tokens isAssigned => ?_
    obtain ⟨tokens, rfl, value, form⟩ := isAssigned
    have whole : SettingsForm (.name name :: .assign :: (tokens ++ ([] ++ []))) [⟨name, value⟩] :=
      .cons form (.inl rfl) .nil
    rw [tokensOf_cons, isName]
    exact ⟨_, by simpa [tokensOf] using whole⟩
  | case4 first rest name isName value after assigned ih =>
    have plainRest := plain.of_suffix (List.suffix_cons first rest)
    obtain ⟨tokens, terminator, split, form, isTerminator⟩ := form_of_readAssigned plainRest
      assigned
    have isSuffix := readAssigned_suffix assigned
    obtain ⟨front, whole, read⟩ : ∃ front, rest = front ++ after ∧
        tokensOf front = .assign :: (tokens ++ terminator) :=
      exists_front isSuffix (by simpa using split)
    have begins := ih (plainRest.of_suffix isSuffix) (error_of_map_eq_error failed)
    rw [whole]
    refine begins.behind (first :: front) fun others areSettings => ?_
    obtain ⟨settings, formOthers⟩ := areSettings
    have whole : SettingsForm (.name name :: .assign :: (tokens ++ (terminator ++ others)))
        (⟨name, value⟩ :: settings) := .cons form isTerminator formOthers
    rw [tokensOf_cons, isName, read]
    exact ⟨_, by simpa using whole⟩
  | case5 first rest noName =>
    cases failed
    exact begins_here (.lexeme (.name first.token)) fillers_nil nothing

/-! ## Where the scan stops -/

theorem ofEscape_of_readEscape {cs : List Char} {fault : Fault}
    (failed : readEscape cs = .error fault) : fault.OfEscape := by
  unfold readEscape at failed
  split at failed
  · cases failed
    exact .unterminated
  · split at failed
    · split at failed
      · split at failed
        · contradiction
        · cases failed
          exact .hexadecimal
      · cases failed
        exact .hexadecimal
    · split at failed
      · contradiction
      · cases failed
        exact .unknown _

theorem error_of_consChar_eq_error {c : Char} {read : Except Stuck (List Char × List Char)}
    {stuck : Stuck} (failed : consChar c read = .error stuck) : read = .error stuck :=
  error_of_map_eq_error failed

/-- What can be wrong with a token that begins with these characters: an escape at a backslash
among them, or anything else at the first of them. -/
inductive Wrong (cs : List Char) : Stuck → Prop where
  | escape {front rest : List Char} {fault : Fault} : cs = front ++ '\\' :: rest →
      fault.OfEscape → Wrong cs ⟨'\\' :: rest, fault⟩
  | start {fault : Fault} : fault.StandsAt cs → Wrong cs ⟨cs, fault⟩

theorem wrong_of_readString {body cs : List Char} {stuck : Stuck} (isSuffix : cs <:+ '"' :: body)
    (failed : readString ('"' :: body) cs = .error stuck) : Wrong ('"' :: body) stuck := by
  induction cs using readString.induct with
  | case1 =>
    rw [readString] at failed
    cases failed
    exact .start .string
  | case2 tail => simp [readString] at failed
  | case3 tail fault escape noQuote =>
    obtain ⟨front, whole⟩ := isSuffix
    rw [readString, if_neg noQuote, if_pos rfl] at failed
    split at failed
    · next found =>
      cases failed
      exact .escape whole.symm (ofEscape_of_readEscape found)
    · next succeeded => simp [escape] at succeeded
  | case4 tail decoded after escape noQuote ih =>
    rw [readString, if_neg noQuote, if_pos rfl] at failed
    split at failed
    · next wrong => simp [escape] at wrong
    · next succeeded =>
      obtain ⟨rfl, rfl⟩ := Prod.mk.inj (Except.ok.inj (escape.symm.trans succeeded))
      obtain ⟨spelling, rfl, _⟩ := written_of_readEscape escape
      refine ih ?_ (error_of_consChar_eq_error failed)
      exact ((List.suffix_append spelling after).trans (List.suffix_cons _ _)).trans isSuffix
  | case5 c tail noQuote noBackslash ih =>
    rw [readString, if_neg noQuote, if_neg noBackslash] at failed
    exact ih ((List.suffix_cons c tail).trans isSuffix) (error_of_consChar_eq_error failed)

theorem ofNumber_of_endNumber {start rest : List Char} {value : Arg} {stuck : Stuck}
    (failed : endNumber start value rest = .error stuck) :
    stuck.rest = start ∧ stuck.fault.OfNumber := by
  unfold endNumber at failed
  split at failed
  · cases failed
    exact ⟨rfl, .boundary⟩
  · contradiction

theorem ofNumber_of_readHexadecimal {start rest : List Char} {negative : Bool} {stuck : Stuck}
    (failed : readHexadecimal start negative rest = .error stuck) :
    stuck.rest = start ∧ stuck.fault.OfNumber := by
  unfold readHexadecimal at failed
  simp only at failed
  split at failed
  · cases failed
    exact ⟨rfl, .hexadecimal⟩
  · exact ofNumber_of_endNumber failed

theorem ofNumber_of_readDecimal {start sign rest : List Char} {stuck : Stuck}
    (failed : readDecimal start sign rest = .error stuck) :
    stuck.rest = start ∧ stuck.fault.OfNumber := by
  unfold readDecimal at failed
  simp only at failed
  split at failed
  · cases failed
    exact ⟨rfl, .exponent⟩
  · split at failed
    · split at failed
      · cases failed
        exact ⟨rfl, .boundary⟩
      · split at failed
        · contradiction
        · cases failed
          exact ⟨rfl, .float _⟩
    · split at failed
      · exact ofNumber_of_endNumber failed
      · cases failed
        exact ⟨rfl, .integer _⟩

theorem wrong_of_readNumber {c : Char} {rest : List Char} {stuck : Stuck}
    (start : isNumberStart c = true) (failed : readNumber (c :: rest) = .error stuck) :
    Wrong (c :: rest) stuck := by
  have ofNumber : stuck.rest = c :: rest ∧ stuck.fault.OfNumber := by
    unfold readNumber at failed
    simp only at failed
    split at failed
    · exact ofNumber_of_readHexadecimal failed
    · exact ofNumber_of_readDecimal failed
  obtain ⟨place, fault⟩ := stuck
  obtain ⟨rfl, ofNumber⟩ := ofNumber
  exact .start (.number ofNumber start)

theorem wrong_of_readToken {c : Char} {rest : List Char} {stuck : Stuck}
    (failed : readToken c rest = .error stuck) : Wrong (c :: rest) stuck := by
  unfold readToken at failed
  -- The characters that are tokens on their own are always read
  iterate 5
    split at failed
    · contradiction
  split at failed
  · next isQuote =>
    subst isQuote
    exact wrong_of_readString (List.suffix_cons _ rest) (error_of_map_eq_error failed)
  · split at failed
    · next start => exact wrong_of_readNumber start (error_of_map_eq_error failed)
    · split at failed <;> contradiction

theorem eq_of_readToken_unsupported {c d : Char} {rest after : List Char}
    (read : readToken c rest = .ok (.unsupported d, after)) : d = c ∧ after = rest := by
  unfold readToken at read
  iterate 5
    split at read
    · cases read
  split at read
  · obtain ⟨_, _, isString⟩ :=
      eq_of_map_eq_ok (f := fun text => .scalar (.str (String.ofList text))) read
    cases isString
  split at read
  · obtain ⟨_, _, isScalar⟩ := eq_of_map_eq_ok (f := .scalar) read
    cases isScalar
  split at read
  · cases read
  · cases read
    exact ⟨rfl, rfl⟩

/-- A token is shown by the characters that it was read from. -/
theorem shows_of_readToken {c : Char} {rest after : List Char} {token : Token}
    (read : readToken c rest = .ok (token, after)) :
    ∃ spelling, c :: rest = spelling ++ after ∧ Fault.Shows spelling token := by
  cases token with
  | unsupported d =>
    obtain ⟨rfl, rfl⟩ := eq_of_readToken_unsupported read
    exact ⟨[d], rfl, .unsupported d⟩
  | _ =>
    obtain ⟨spelling, whole, spells, -⟩ := spells_of_readToken read nofun
    exact ⟨spelling, whole, .spelled spells⟩

/-! ## The text before the place -/

/-- A text is cut into tokens and stays so, whatever comes behind a space. -/
def CutBefore (front : List Char) (tokens : List Token) : Prop :=
  ∀ ⦃ending others⦄, Tokenizes ending others → Tokenizes (front ++ ' ' :: ending) (tokens ++ others)

theorem cutBefore_nil : CutBefore [] [] :=
  fun _ _ cuts => cuts.space rfl

theorem CutBefore.space {c : Char} {front : List Char} {tokens : List Token}
    (cut : CutBefore front tokens) (space : isSpace c = true) : CutBefore (c :: front) tokens :=
  fun _ _ cuts => (cut cuts).space space

theorem CutBefore.cons {spelling front rest : List Char} {token : Token} {tokens : List Token}
    (cut : CutBefore front tokens) (spells : Spells spelling token)
    (stops : Stops token (front ++ rest)) : CutBefore (spelling ++ front) (token :: tokens) := by
  intro ending others cuts
  rw [List.append_assoc]
  refine .cons spells ?_ (cut cuts)
  -- What comes next is as before, or it is the space
  cases front with
  | nil => exact stops_of_head rfl rfl token ending
  | cons d front => exact ⟨stops.name, stops.number⟩

theorem spells_one : Spells ['1'] (.scalar (.int 1)) := by
  have digit : AllDigits ['1'] := by simp [AllDigits]
  have form : NumberForm ([] ++ ['1'] ++ []) (.ofInt 1 false) :=
    .decimal (.inl rfl) (by simp) digit (.inl rfl) (by decide) (by decide)
  exact .number form

theorem tokenizes_fillers {tokens : List Token} (fillers : Fillers tokens) :
    ∃ ending, Tokenizes ending tokens := by
  induction tokens with
  | nil => exact ⟨[], .done nofun⟩
  | cons token tokens ih =>
    obtain ⟨⟨c, filler⟩, others⟩ := List.forall_mem_cons.mp fillers
    obtain ⟨ending, cuts⟩ := ih others
    have stops := stops_of_head (c := ' ') rfl rfl token ending
    refine ⟨[c] ++ ' ' :: ending, .cons ?_ stops (cuts.space rfl)⟩
    cases filler with
    | assign => exact .assign (.inl rfl)
    | closing => exact .closing
    | one => exact spells_one

/-- A complaint is found in the text, and up to its place the text is cut into the lexemes before
it, unless an escape in the next one is wrong. -/
theorem cutBefore_of_scan {cs : List Char} {before after : List Lexeme} {stuck : Stuck}
    (split : (scan cs).lexemes = before ++ after) (complaint : Complaint (scan cs).stop after stuck)
    (supported : ∀ d, .unsupported d ∉ tokensOf before) :
    ∃ front, cs = front ++ stuck.rest ∧ stuck.fault.StandsAt stuck.rest ∧
      (¬ stuck.fault.OfEscape → CutBefore front (tokensOf before)) := by
  induction cs using scan.induct generalizing before with
  | case1 =>
    rw [scan] at split complaint
    obtain ⟨rfl, rfl⟩ := List.append_eq_nil_iff.mp split.symm
    cases complaint with
    | scan stopped => cases stopped
    | finish _ ofEnd => exact ⟨[], rfl, .finish ofEnd, fun _ => cutBefore_nil⟩
  | case2 c rest space ih =>
    rw [scan_space space] at split complaint
    obtain ⟨front, rfl, stands, cut⟩ := ih split complaint supported
    exact ⟨c :: front, rfl, stands, fun noEscape => (cut noEscape).space space⟩
  | case3 c rest noSpace found read =>
    rw [scan_stuck (by simpa using noSpace) read] at split complaint
    obtain ⟨rfl, rfl⟩ := List.append_eq_nil_iff.mp split.symm
    cases complaint with
    | finish stopped => cases stopped
    | scan stopped =>
      obtain rfl := Option.some.inj stopped
      cases wrong_of_readToken read with
      | escape whole isEscape => exact ⟨_, whole, .escape isEscape, (absurd isEscape ·)⟩
      | start stands => exact ⟨[], rfl, stands, fun _ => cutBefore_nil⟩
  | case4 c rest noSpace token left read ih =>
    rw [scan_token (by simpa using noSpace) read] at split complaint
    cases before with
    | nil =>
      obtain rfl : _ = after := split
      cases complaint with
      | lexeme ofToken =>
        obtain ⟨spelling, whole, shows⟩ := shows_of_readToken read
        exact ⟨[], rfl, whole ▸ .token ofToken shows, fun _ => cutBefore_nil⟩
    | cons first before =>
      -- The fault is further behind, and this token belongs to the cut
      obtain ⟨rfl, splitLeft⟩ := List.cons.inj split
      rw [tokensOf_cons] at supported
      obtain ⟨spelling, whole, spells, stops⟩ := spells_of_readToken read
        fun d same => supported d (same ▸ List.mem_cons_self)
      obtain ⟨front, rfl, stands, cut⟩ := ih splitLeft complaint
        fun d member => supported d (List.mem_cons_of_mem _ member)
      exact ⟨spelling ++ front, by rw [whole, List.append_assoc], stands,
        fun noEscape => (cut noEscape).cons spells stops⟩

/-! ## Main statement -/

theorem byteCount_eq (cs : List Char) : byteCount cs = (String.ofList cs).utf8ByteSize := by
  induction cs with
  | nil => rfl
  | cons c cs ih =>
    rw [String.ofList_cons, String.utf8ByteSize_append, ← ih]
    simp [byteCount]

/-- Where a text is refused, it is cut in two. Behind the cut stands what the fault is about; that
is the backslash of a wrong escape, or else what stands before the cut begins a text of settings. -/
theorem place_of_fault {text : String} {malformed : Malformed}
    (failed : Settings.read text = .error malformed) :
    ∃ front rest : String, text = front ++ rest ∧ malformed.offset = front.utf8ByteSize ∧
      malformed.fault.StandsAt rest.toList ∧
      (malformed.fault.OfEscape → ∃ escape, rest = "\\" ++ escape) ∧
      (¬ malformed.fault.OfEscape →
        ∃ ending settings, Settings.read (front ++ ending) = .ok settings) := by
  simp only [Settings.read] at failed
  split at failed
  · contradiction
  next stuck refused =>
    cases failed
    obtain ⟨before, after, fillers, split, complaint, areFillers, settings, form⟩ :=
      begins_of_readSettings (plain_scan _) refused
    have supported (d : Char) : .unsupported d ∉ tokensOf before :=
      fun member => form.supported d (List.mem_append_left _ member)
    obtain ⟨front, whole, stands, cut⟩ := cutBefore_of_scan split complaint supported
    refine ⟨String.ofList front, String.ofList stuck.rest, ?_, ?_, ?_, fun isEscape => ?_,
      fun noEscape => ?_⟩
    · rw [← String.ofList_append, ← whole, String.ofList_toList]
    · rw [whole, byteCount_eq, byteCount_eq, String.ofList_append, String.utf8ByteSize_append,
        Nat.add_sub_cancel]
    · rwa [String.toList_ofList]
    · obtain ⟨rest, behind⟩ := stands.backslash isEscape
      refine ⟨String.ofList rest, ?_⟩
      rw [behind, String.ofList_cons]
      rfl
    · obtain ⟨ending, cuts⟩ := tokenizes_fillers areFillers
      refine ⟨String.ofList (' ' :: ending), settings, read_of_isSettings ⟨_, ?_, form⟩⟩
      rw [← String.ofList_append, String.toList_ofList]
      exact cut noEscape cuts

/-- A number where a name should come; the string in front of it has a letter of two bytes. -/
theorem read_stray_number :
    Settings.read "A = \"é\" 1" = .error ⟨9, .expectedName (.scalar (.int 1))⟩ := by
  have name : readToken 'A' " = \"é\" 1".toList = .ok (.name "A", " = \"é\" 1".toList) := rfl
  have assign : readToken '=' " \"é\" 1".toList = .ok (.assign, " \"é\" 1".toList) := rfl
  have string : readToken '"' "é\" 1".toList = .ok (.scalar (.str "é"), " 1".toList) := by
    simp [readToken, readString, consChar, Except.map]
  have number : readToken '1' [] = .ok (.scalar (.int 1), []) := rfl
  have first : scan "A = \"é\" 1".toList =
      (scan " = \"é\" 1".toList).cons ⟨"A = \"é\" 1".toList, .name "A"⟩ := scan_token rfl name
  have second : scan " = \"é\" 1".toList =
      (scan " \"é\" 1".toList).cons ⟨"= \"é\" 1".toList, .assign⟩ :=
    (scan_space rfl _).trans (scan_token rfl assign)
  have third : scan " \"é\" 1".toList =
      (scan " 1".toList).cons ⟨"\"é\" 1".toList, .scalar (.str "é")⟩ :=
    (scan_space rfl _).trans (scan_token rfl string)
  have last : scan " 1".toList = (scan []).cons ⟨"1".toList, .scalar (.int 1)⟩ :=
    (scan_space rfl _).trans (scan_token rfl number)
  simp only [Settings.read, first, second, third, last, scan, Scan.cons]
  simp [readSettings, readAssigned, readValue, readScalar, joinStrings, skipTerminator, Except.map]
  decide

theorem place_of_fault_stray_number :
    Settings.read "A = \"é\" 1" = .error ⟨9, .expectedName (.scalar (.int 1))⟩ ∧
      ∃ front rest ending settings, "A = \"é\" 1" = front ++ rest ∧ front.utf8ByteSize = 9 ∧
        Settings.read (front ++ ending) = .ok settings := by
  obtain ⟨front, rest, whole, offset, -, -, begins⟩ := place_of_fault read_stray_number
  obtain ⟨ending, settings, read⟩ := begins nofun
  exact ⟨read_stray_number, front, rest, ending, settings, whole, offset.symm, read⟩

end Settings

end AgentBus
