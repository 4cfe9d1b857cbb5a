import AgentBus.Proofs.Settings.Tokens

/-!
# The reader of settings

Main statement: `read_eq_ok_iff`, by which a text is read into settings just when it is a sequence
of these settings by the grammar. Each reading function has two lemmas, one for each direction:
what it accepts has the form (`…_of_read…`), and what has the form it accepts (`read…_of_form`).
-/

namespace AgentBus.Settings

def tokensOf (lexemes : List Lexeme) : List Token :=
  lexemes.map Lexeme.token

theorem tokensOf_cons (first : Lexeme) (rest : List Lexeme) :
    tokensOf (first :: rest) = first.token :: tokensOf rest := rfl

/-- Truth values are written as names, so no token holds one. -/
def Plain (tokens : List Token) : Prop :=
  ∀ value, .scalar (.bool value) ∉ tokens

theorem plain_nil : Plain [] :=
  fun _ => List.not_mem_nil

theorem Plain.of_append_right {tokens more : List Token} (plain : Plain (tokens ++ more)) :
    Plain more :=
  fun value member => plain value (List.mem_append_right tokens member)

/-! ## What is accepted has the form -/

theorem strings_of_joinStrings (text : String) (lexemes : List Lexeme) :
    ∃ texts : List String,
      tokensOf lexemes =
        texts.map (fun text => .scalar (.str text)) ++ tokensOf (joinStrings text lexemes).2 ∧
      (joinStrings text lexemes).1 = text ++ String.join texts := by
  fun_induction joinStrings text lexemes with
  | case1 text start more rest ih =>
    obtain ⟨texts, split, joined⟩ := ih
    refine ⟨more :: texts, ?_, ?_⟩
    · rw [tokensOf_cons, split]
      rfl
    · rw [joined, String.join_cons, String.append_assoc]
  | case2 text rest => exact ⟨[], rfl, by simp⟩

theorem form_of_readScalar {first : Lexeme} {rest after : List Lexeme} {value : Arg}
    (plain : Plain (tokensOf (first :: rest))) (read : readScalar first rest = .ok (value, after)) :
    ∃ tokens, tokensOf (first :: rest) = tokens ++ tokensOf after ∧ ScalarForm tokens value := by
  unfold readScalar at read
  rw [tokensOf_cons] at plain ⊢
  split at read
  · next text isString =>
    simp only [Except.ok.injEq, Prod.mk.injEq] at read
    obtain ⟨rfl, rfl⟩ := read
    obtain ⟨texts, split, joined⟩ := strings_of_joinStrings text rest
    refine ⟨(text :: texts).map fun text => .scalar (.str text), ?_, ?_⟩
    · rw [isString, split]
      rfl
    · rw [joined, ← String.join_cons]
      exact .strings nofun
  · next scalar noString isScalar =>
    simp only [Except.ok.injEq, Prod.mk.injEq] at read
    obtain ⟨rfl, rfl⟩ := read
    refine ⟨[.scalar scalar], by rw [isScalar]; rfl, .number ?_⟩
    rw [isScalar] at plain
    cases scalar with
    | str text => exact (noString text rfl).elim
    -- The reader would take a token with a truth value, but the scan makes none
    | bool value => exact (plain value List.mem_cons_self).elim
    | int _ | int64 _ | float _ => trivial
  · next name isName =>
    split at read
    · next isTrue =>
      simp only [Except.ok.injEq, Prod.mk.injEq] at read
      obtain ⟨rfl, rfl⟩ := read
      exact ⟨[.name name], by rw [isName]; rfl, .bool isTrue⟩
    · split at read
      · next isFalse =>
        simp only [Except.ok.injEq, Prod.mk.injEq] at read
        obtain ⟨rfl, rfl⟩ := read
        exact ⟨[.name name], by rw [isName]; rfl, .bool isFalse⟩
      · contradiction
  · contradiction

theorem form_of_readItems {stop : Option Stuck} {lexemes after : List Lexeme} {values : List Arg}
    (plain : Plain (tokensOf lexemes)) (read : readItems stop lexemes = .ok (values, after)) :
    ∃ tokens, tokensOf lexemes = tokens ++ .closing :: tokensOf after ∧
      ItemsForm tokens values := by
  -- Items end in two ways: with a comma and more of them, or with the closing bracket
  fun_induction readItems stop lexemes generalizing values after with
  | case1 => simp [atEnd] at read
  | case2 => contradiction
  | case3 => contradiction
  | case4 => simp [atEnd] at read
  | case5 => contradiction
  | case6 first rest _ value next tail item isComma values' rest' readMore ih =>
    simp only [Except.ok.injEq, Prod.mk.injEq] at read
    obtain ⟨rfl, rfl⟩ := read
    obtain ⟨tokens, split, form⟩ := form_of_readScalar plain item
    have plainOthers : Plain (tokens ++ [.comma] ++ tokensOf tail) := by
      rw [split, tokensOf_cons, isComma] at plain
      simpa using plain
    obtain ⟨others, splitOthers, formOthers⟩ := ih plainOthers.of_append_right readMore
    refine ⟨tokens ++ .comma :: others, ?_, .more form formOthers⟩
    rw [split, tokensOf_cons, isComma, splitOthers]
    simp
  | case7 first rest _ value next tail item noComma isClosing =>
    simp only [Except.ok.injEq, Prod.mk.injEq] at read
    obtain ⟨rfl, rfl⟩ := read
    obtain ⟨tokens, split, form⟩ := form_of_readScalar plain item
    exact ⟨tokens, by rw [split, tokensOf_cons, isClosing], .last form⟩
  | case8 => contradiction

theorem form_of_readList {stop : Option Stuck} {lexemes after : List Lexeme} {values : List Arg}
    (plain : Plain (tokensOf lexemes)) (read : readList stop lexemes = .ok (values, after)) :
    ∃ tokens, tokensOf lexemes = tokens ++ tokensOf after ∧
      ValueForm (.opening :: tokens) (.list values) := by
  unfold readList at read
  split at read
  · simp [readItems, atEnd] at read
  · next first rest =>
    split at read
    · next isClosing =>
      simp only [Except.ok.injEq, Prod.mk.injEq] at read
      obtain ⟨rfl, rfl⟩ := read
      exact ⟨[.closing], by rw [tokensOf_cons, isClosing]; rfl, .empty⟩
    · obtain ⟨tokens, split, form⟩ := form_of_readItems plain read
      exact ⟨tokens ++ [.closing], by simp [split], .list form⟩

theorem form_of_readValue {stop : Option Stuck} {lexemes after : List Lexeme}
    {value : SettingValue} (plain : Plain (tokensOf lexemes))
    (read : readValue stop lexemes = .ok (value, after)) :
    ∃ tokens, tokensOf lexemes = tokens ++ tokensOf after ∧ ValueForm tokens value := by
  unfold readValue at read
  split at read
  · simp [atEnd] at read
  · next first rest =>
    split at read
    · next isOpening =>
      cases readRest : readList stop rest with
      | error stuck => simp [readRest, Except.map] at read
      | ok found =>
        simp only [readRest, Except.map, Except.ok.injEq, Prod.mk.injEq] at read
        obtain ⟨rfl, rfl⟩ := read
        rw [tokensOf_cons, isOpening] at plain ⊢
        have plainRest : Plain ([.opening] ++ tokensOf rest) := plain
        obtain ⟨tokens, split, form⟩ := form_of_readList plainRest.of_append_right readRest
        exact ⟨.opening :: tokens, by rw [split]; rfl, form⟩
    · cases readFirst : readScalar first rest with
      | error stuck => simp [readFirst, Except.map] at read
      | ok found =>
        simp only [readFirst, Except.map, Except.ok.injEq, Prod.mk.injEq] at read
        obtain ⟨rfl, rfl⟩ := read
        obtain ⟨tokens, split, form⟩ := form_of_readScalar plain readFirst
        exact ⟨tokens, split, .scalar form⟩

theorem terminator_of_skipTerminator (lexemes : List Lexeme) :
    ∃ terminator, IsTerminator terminator ∧
      tokensOf lexemes = terminator ++ tokensOf (skipTerminator lexemes) := by
  unfold skipTerminator
  split
  · exact ⟨[], .inl rfl, rfl⟩
  · next first rest =>
    split
    · next isTerminator =>
      rw [tokensOf_cons]
      obtain isSemicolon | isComma := isTerminator
      · exact ⟨[.semicolon], .inr (.inl rfl), by rw [isSemicolon]; rfl⟩
      · exact ⟨[.comma], .inr (.inr rfl), by rw [isComma]; rfl⟩
    · exact ⟨[], .inl rfl, rfl⟩

theorem form_of_readAssigned {stop : Option Stuck} {lexemes after : List Lexeme}
    {value : SettingValue} (plain : Plain (tokensOf lexemes))
    (read : readAssigned stop lexemes = .ok (value, after)) :
    ∃ tokens terminator, tokensOf lexemes = .assign :: (tokens ++ (terminator ++ tokensOf after)) ∧
      ValueForm tokens value ∧ IsTerminator terminator := by
  unfold readAssigned at read
  split at read
  · simp [atEnd] at read
  · next first rest =>
    split at read
    · next isAssign =>
      cases readRest : readValue stop rest with
      | error stuck => simp [readRest, Except.map] at read
      | ok found =>
        simp only [readRest, Except.map, Except.ok.injEq, Prod.mk.injEq] at read
        obtain ⟨rfl, rfl⟩ := read
        rw [tokensOf_cons, isAssign] at plain ⊢
        have plainRest : Plain ([.assign] ++ tokensOf rest) := plain
        obtain ⟨tokens, split, form⟩ := form_of_readValue plainRest.of_append_right readRest
        obtain ⟨terminator, isTerminator, splitAfter⟩ := terminator_of_skipTerminator found.2
        exact ⟨tokens, terminator, by rw [split, splitAfter], form, isTerminator⟩
    · contradiction

/-- Lexemes that are read as settings have the form of these settings, and the scan came to the
end of the text. -/
theorem form_of_readSettings {stop : Option Stuck} {lexemes : List Lexeme}
    {settings : List Setting} (plain : Plain (tokensOf lexemes))
    (read : readSettings stop lexemes = .ok settings) :
    stop = none ∧ SettingsForm (tokensOf lexemes) settings := by
  fun_induction readSettings stop lexemes generalizing settings with
  | case1 finished =>
    obtain rfl := Except.ok.inj read
    exact ⟨finished, .nil⟩
  | case2 => contradiction
  | case3 => contradiction
  | case4 first rest name isName value after assigned ih =>
    cases readRest : readSettings stop after with
    | error stuck => simp [readRest, Except.map] at read
    | ok others =>
      simp only [readRest, Except.map, Except.ok.injEq] at read
      obtain rfl := read
      rw [tokensOf_cons, isName] at plain ⊢
      have plainRest : Plain ([.name name] ++ tokensOf rest) := plain
      obtain ⟨tokens, terminator, split, form, isTerminator⟩ :=
        form_of_readAssigned plainRest.of_append_right assigned
      have plainAfter : Plain (.assign :: (tokens ++ terminator) ++ tokensOf after) := by
        have plainAssigned := plainRest.of_append_right
        rw [split] at plainAssigned
        simpa using plainAssigned
      obtain ⟨finished, formOthers⟩ := ih plainAfter.of_append_right readRest
      exact ⟨finished, by rw [split]; exact .cons form isTerminator formOthers⟩
  | case5 => contradiction

/-! ## What has the form is accepted -/

/-- No string comes first, which would be joined to a string before it. -/
def NoString (tokens : List Token) : Prop :=
  ∀ text, tokens.head? ≠ some (.scalar (.str text))

theorem noString_cons {token : Token} (noString : ∀ text, token ≠ .scalar (.str text))
    (more : List Token) : NoString (token :: more) :=
  fun text head => noString text (Option.some.inj head)

theorem joinStrings_of_strings {texts : List String} {more : List Token} (noString : NoString more)
    (text : String) {lexemes : List Lexeme}
    (split : tokensOf lexemes = texts.map (fun text => .scalar (.str text)) ++ more) :
    (joinStrings text lexemes).1 = text ++ String.join texts ∧
      tokensOf (joinStrings text lexemes).2 = more := by
  induction texts generalizing text lexemes with
  | nil =>
    -- Nothing is left to join, since no string comes next
    have unchanged : joinStrings text lexemes = (text, lexemes) := by
      unfold joinStrings
      split
      · next start more' rest =>
        rw [tokensOf_cons] at split
        exact absurd (congrArg List.head? split).symm (noString more')
      · rfl
    rw [unchanged]
    exact ⟨by simp, by simpa using split⟩
  | cons next texts ih =>
    obtain ⟨⟨start, token⟩, rest, rfl, isNext, splitRest⟩ := List.map_eq_cons_iff.mp split
    obtain rfl : token = .scalar (.str next) := isNext
    obtain ⟨joined, splitAfter⟩ := ih (text ++ next) splitRest
    rw [joinStrings]
    exact ⟨by rw [joined, String.join_cons, String.append_assoc], splitAfter⟩

theorem readScalar_of_form {tokens more : List Token} {value : Arg} (form : ScalarForm tokens value)
    (noString : NoString more) {lexemes : List Lexeme} (split : tokensOf lexemes = tokens ++ more) :
    ∃ first rest after, lexemes = first :: rest ∧ readScalar first rest = .ok (value, after) ∧
      tokensOf after = more := by
  cases form with
  | @strings texts nonempty =>
    cases texts with
    | nil => exact absurd rfl nonempty
    | cons text texts =>
      obtain ⟨first, rest, rfl, isText, splitRest⟩ := List.map_eq_cons_iff.mp split
      obtain ⟨joined, splitAfter⟩ := joinStrings_of_strings noString text splitRest
      refine ⟨first, rest, (joinStrings text rest).2, rfl, ?_, splitAfter⟩
      rw [String.join_cons, ← joined]
      simp only [readScalar, isText]
  | number isNumber =>
    obtain ⟨first, rest, rfl, isScalar, splitRest⟩ := List.map_eq_cons_iff.mp split
    refine ⟨first, rest, rest, rfl, ?_, splitRest⟩
    cases value with
    | str _ | bool _ => exact isNumber.elim
    | int _ | int64 _ | float _ => simp only [readScalar, isScalar]
  | @bool name value isBool =>
    obtain ⟨first, rest, rfl, isName, splitRest⟩ := List.map_eq_cons_iff.mp split
    refine ⟨first, rest, rest, rfl, ?_, splitRest⟩
    cases value with
    | false => simp [readScalar, isName, isBool, toString]
    | true => simp [readScalar, isName, isBool, toString]

theorem token_of_readScalar {first : Lexeme} {rest after : List Lexeme} {value : Arg}
    (read : readScalar first rest = .ok (value, after)) :
    first.token ≠ .opening ∧ first.token ≠ .closing := by
  constructor
  · intro isOpening
    simp [readScalar, isOpening] at read
  · intro isClosing
    simp [readScalar, isClosing] at read

/-- What the token after a scalar makes of a list. -/
theorem readItems_scalar {first next : Lexeme} {rest tail : List Lexeme} {value : Arg}
    (read : readScalar first rest = .ok (value, next :: tail)) (stop : Option Stuck) :
    readItems stop (first :: rest) =
      if next.token = .comma then
        match readItems stop tail with
        | .error stuck => .error stuck
        | .ok (values, after) => .ok (value :: values, after)
      else if next.token = .closing then .ok ([value], tail)
      else .error ⟨next.start, .expectedSeparator next.token⟩ := by
  rw [readItems, if_neg (token_of_readScalar read).1]
  split
  · next failed => simp [read] at failed
  · next ended => simp [read] at ended
  · next value' next' tail' read' =>
    rw [read] at read'
    cases read'
    rfl

theorem not_closing_of_readItems {stop : Option Stuck} {first : Lexeme} {rest after : List Lexeme}
    {values : List Arg} (read : readItems stop (first :: rest) = .ok (values, after)) :
    first.token ≠ .closing := by
  rw [readItems] at read
  split at read
  · contradiction
  · split at read
    · contradiction
    · next ended => exact (token_of_readScalar ended).2
    · next scalar => exact (token_of_readScalar scalar).2

theorem readItems_of_form {tokens : List Token} {values : List Arg} (form : ItemsForm tokens values)
    (stop : Option Stuck) {lexemes : List Lexeme} {more : List Token}
    (split : tokensOf lexemes = tokens ++ .closing :: more) :
    ∃ after, readItems stop lexemes = .ok (values, after) ∧ tokensOf after = more := by
  induction form generalizing lexemes with
  -- A scalar takes all strings that follow each other, so it matters what comes after it
  | last form =>
    have noString : NoString (.closing :: more) := noString_cons (by simp) more
    obtain ⟨first, rest, after, rfl, read, splitAfter⟩ := readScalar_of_form form noString split
    obtain ⟨next, tail, rfl, isClosing, splitTail⟩ := List.map_eq_cons_iff.mp splitAfter
    refine ⟨tail, ?_, splitTail⟩
    rw [readItems_scalar read, isClosing]
    rfl
  | @more tokens others value values form _ ih =>
    have noString : NoString (.comma :: (others ++ .closing :: more)) := noString_cons (by simp) _
    rw [List.append_assoc] at split
    obtain ⟨first, rest, after, rfl, read, splitAfter⟩ := readScalar_of_form form noString split
    obtain ⟨next, tail, rfl, isComma, splitTail⟩ := List.map_eq_cons_iff.mp splitAfter
    obtain ⟨after, readOthers, splitMore⟩ := ih splitTail
    refine ⟨after, ?_, splitMore⟩
    rw [readItems_scalar read, isComma, readOthers]
    rfl

theorem readValue_of_form {tokens more : List Token} {value : SettingValue}
    (form : ValueForm tokens value) (noString : NoString more) (stop : Option Stuck)
    {lexemes : List Lexeme} (split : tokensOf lexemes = tokens ++ more) :
    ∃ after, readValue stop lexemes = .ok (value, after) ∧ tokensOf after = more := by
  cases form with
  | scalar form =>
    obtain ⟨first, rest, after, rfl, read, splitAfter⟩ := readScalar_of_form form noString split
    refine ⟨after, ?_, splitAfter⟩
    simp only [readValue, if_neg (token_of_readScalar read).1, read, Except.map]
  | empty =>
    obtain ⟨opening, _, rfl, isOpening, splitRest⟩ := List.map_eq_cons_iff.mp split
    obtain ⟨closing, after, rfl, isClosing, splitAfter⟩ := List.map_eq_cons_iff.mp splitRest
    refine ⟨after, ?_, splitAfter⟩
    simp only [readValue, isOpening, readList, isClosing, if_true, Except.map]
  | @list tokens values form =>
    rw [List.cons_append, List.append_assoc] at split
    obtain ⟨opening, rest, rfl, isOpening, splitRest⟩ := List.map_eq_cons_iff.mp split
    obtain ⟨after, read, splitAfter⟩ := readItems_of_form form stop splitRest
    refine ⟨after, ?_, splitAfter⟩
    have readRest : readList stop rest = .ok (values, after) := by
      cases rest with
      | nil => exact read
      | cons first rest =>
        rw [readList, if_neg (not_closing_of_readItems read), read]
    simp only [readValue, isOpening, readRest, if_true, Except.map]

/-- Settings begin with a name, if there are any. -/
theorem head_of_settingsForm {tokens : List Token} {settings : List Setting}
    (form : SettingsForm tokens settings) :
    tokens = [] ∨ ∃ name more, tokens = .name name :: more := by
  cases form with
  | nil => exact .inl rfl
  | cons => exact .inr ⟨_, _, rfl⟩

theorem skipTerminator_of_form {terminator rest : List Token} {settings : List Setting}
    (isTerminator : IsTerminator terminator) (form : SettingsForm rest settings)
    {lexemes : List Lexeme} (split : tokensOf lexemes = terminator ++ rest) :
    tokensOf (skipTerminator lexemes) = rest := by
  obtain rfl | rfl | rfl := isTerminator
  · -- Without a terminator the next setting or the end comes, which is not skipped
    obtain rfl | ⟨name, more, rfl⟩ := head_of_settingsForm form
    · rw [List.map_eq_nil_iff.mp split]
      rfl
    · obtain ⟨first, after, rfl, isName, _⟩ := List.map_eq_cons_iff.mp split
      rw [skipTerminator, if_neg (by simp [isName])]
      exact split
  · obtain ⟨first, after, rfl, isSemicolon, splitAfter⟩ := List.map_eq_cons_iff.mp split
    rw [skipTerminator, if_pos (.inl isSemicolon)]
    exact splitAfter
  · obtain ⟨first, after, rfl, isComma, splitAfter⟩ := List.map_eq_cons_iff.mp split
    rw [skipTerminator, if_pos (.inr isComma)]
    exact splitAfter

theorem noString_of_terminator {terminator rest : List Token} {settings : List Setting}
    (isTerminator : IsTerminator terminator) (form : SettingsForm rest settings) :
    NoString (terminator ++ rest) := by
  obtain rfl | rfl | rfl := isTerminator
  · obtain rfl | ⟨name, more, rfl⟩ := head_of_settingsForm form
    · exact fun text head => by simp at head
    · exact noString_cons (by simp) more
  · exact noString_cons (by simp) rest
  · exact noString_cons (by simp) rest

theorem readSettings_of_form {lexemes : List Lexeme} {settings : List Setting}
    (form : SettingsForm (tokensOf lexemes) settings) :
    readSettings none lexemes = .ok settings := by
  generalize split : tokensOf lexemes = tokens at form
  induction form generalizing lexemes with
  | nil =>
    rw [List.map_eq_nil_iff.mp split, readSettings]
  | @cons name tokens terminator rest value settings form isTerminator formOthers ih =>
    obtain ⟨first, _, rfl, isName, splitRest⟩ := List.map_eq_cons_iff.mp split
    obtain ⟨second, lexemes, rfl, isAssign, splitValue⟩ := List.map_eq_cons_iff.mp splitRest
    obtain ⟨after, read, splitAfter⟩ :=
      readValue_of_form form (noString_of_terminator isTerminator formOthers) none splitValue
    have assigned : readAssigned none (second :: lexemes) = .ok (value, skipTerminator after) := by
      simp only [readAssigned, isAssign, if_true, read, Except.map]
    have others := ih (skipTerminator_of_form isTerminator formOthers splitAfter)
    rw [readSettings]
    simp only [isName]
    split
    · next failed => simp [assigned] at failed
    · next value' after' assigned' =>
      rw [assigned] at assigned'
      cases assigned'
      rw [others]
      rfl

/-! ## Tokens of a scan and of settings -/

theorem not_bool_of_spells {spelling : List Char} {token : Token} (spells : Spells spelling token)
    (value : Bool) : token ≠ .scalar (.bool value) := by
  rintro rfl
  cases spells with
  | number form => exact isNumber_of_form form

/-- A scan finds no truth values: it takes them for names. -/
theorem plain_scan (cs : List Char) : Plain (tokensOf (scan cs).lexemes) := by
  induction cs using scan.induct with
  | case1 =>
    rw [scan]
    exact plain_nil
  | case2 c rest space ih =>
    rw [scan_space space]
    exact ih
  | case3 c rest noSpace stuck read =>
    rw [scan_stuck (by simpa using noSpace) read]
    exact plain_nil
  | case4 c rest noSpace token after read ih =>
    rw [scan_token (by simpa using noSpace) read]
    intro value member
    obtain isBool | member := List.mem_cons.mp member
    · -- A token is spelled by the grammar, or is an unsupported character
      by_cases supported : ∀ d, token ≠ .unsupported d
      · obtain ⟨spelling, _, spells, _⟩ := spells_of_readToken read supported
        exact not_bool_of_spells spells value isBool.symm
      · obtain ⟨d, unsupported⟩ := Classical.not_forall.mp supported
        obtain rfl : token = .unsupported d := Classical.not_not.mp unsupported
        cases isBool
    · exact ih value member

theorem ScalarForm.supported {tokens : List Token} {value : Arg} (form : ScalarForm tokens value)
    (d : Char) : .unsupported d ∉ tokens := by
  cases form <;> simp

theorem ItemsForm.supported {tokens : List Token} {values : List Arg}
    (form : ItemsForm tokens values) (d : Char) : .unsupported d ∉ tokens := by
  induction form with
  | last form => exact form.supported d
  | more form _ ih => simp [form.supported d, ih]

theorem ValueForm.supported {tokens : List Token} {value : SettingValue}
    (form : ValueForm tokens value) (d : Char) : .unsupported d ∉ tokens := by
  cases form with
  | scalar form => exact form.supported d
  | empty => simp
  | list form => simp [form.supported d]

theorem SettingsForm.supported {tokens : List Token} {settings : List Setting}
    (form : SettingsForm tokens settings) (d : Char) : .unsupported d ∉ tokens := by
  induction form with
  | nil => simp
  | cons form isTerminator _ ih =>
    obtain rfl | rfl | rfl := isTerminator <;> simp [form.supported d, ih]

/-! ## Main statement -/

theorem read_eq_ok_iff_readSettings (text : String) (settings : List Setting) :
    Settings.read text = .ok settings ↔
      readSettings (scan text.toList).stop (scan text.toList).lexemes = .ok settings := by
  simp only [Settings.read]
  split
  · next found read => simp [read]
  · next stuck failed => simp [failed]

/-- A text of settings is read into the settings that it writes down. -/
theorem read_of_isSettings {text : String} {settings : List Setting}
    (isSettings : IsSettings text settings) : Settings.read text = .ok settings := by
  obtain ⟨tokens, cuts, form⟩ := isSettings
  obtain ⟨finished, rfl⟩ := scan_of_tokenizes cuts
  rw [read_eq_ok_iff_readSettings, finished]
  exact readSettings_of_form form

/-- A text is read into settings just when it is a sequence of these settings by the grammar. -/
theorem read_eq_ok_iff (text : String) (settings : List Setting) :
    Settings.read text = .ok settings ↔ IsSettings text settings := by
  constructor
  · intro read
    rw [read_eq_ok_iff_readSettings] at read
    obtain ⟨finished, form⟩ := form_of_readSettings (plain_scan _) read
    refine ⟨tokensOf (scan text.toList).lexemes, tokenizes_of_scan finished ?_, form⟩
    intro lexeme member d unsupported
    exact form.supported d (unsupported ▸ List.mem_map_of_mem member)
  · exact read_of_isSettings

end AgentBus.Settings
