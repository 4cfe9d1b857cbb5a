import AgentBus.Settings.Scan

/-!
# Settings from lexemes

`Settings.read` reads a whole text as settings:

    setting := name assign value [semicolon | comma]
    value   := scalar | opening closing | opening scalar {comma scalar} closing
    scalar  := string {string} | integer | float | name

where the name of a scalar is `true` or `false` in any case, and adjacent strings make one string.
The first lexeme that does not fit, or the place where the scan stopped, is reported by its byte
offset in the text.
-/

namespace AgentBus.Settings

/-- What is reported where the lexemes run out: the place where the scan stopped, or else `fault`
at the end of the text. -/
def atEnd {α : Type} (stop : Option Stuck) (fault : Fault) : Except Stuck α :=
  .error (stop.getD ⟨[], fault⟩)

/-- Appends the strings that follow a string directly. -/
def joinStrings (text : String) : List Lexeme → String × List Lexeme
  | ⟨_, .scalar (.str more)⟩ :: rest => joinStrings (text ++ more) rest
  | rest => (text, rest)

/-- The scalar that begins with a lexeme. -/
def readScalar (first : Lexeme) (rest : List Lexeme) : Except Stuck (Arg × List Lexeme) :=
  match first.token with
  | .scalar (.str text) => .ok (.str (joinStrings text rest).1, (joinStrings text rest).2)
  | .scalar value => .ok (value, rest)
  | .name text =>
    if text.toLower = "true" then .ok (.bool true, rest)
    else if text.toLower = "false" then .ok (.bool false, rest)
    else .error ⟨first.start, .expectedScalar first.token⟩
  | found => .error ⟨first.start, .expectedScalar found⟩

theorem joinStrings_suffix (text : String) (lexemes : List Lexeme) :
    (joinStrings text lexemes).2 <:+ lexemes := by
  fun_induction joinStrings text lexemes with
  | case1 _ _ more rest ih => exact ih.trans (List.suffix_cons _ rest)
  | case2 => exact List.suffix_rfl

theorem readScalar_suffix {first : Lexeme} {rest after : List Lexeme} {value : Arg}
    (h : readScalar first rest = .ok (value, after)) : after <:+ rest := by
  unfold readScalar at h
  split at h
  · rename_i text _
    have := joinStrings_suffix text rest
    grind
  · grind
  · grind
  · contradiction

/-- The items of a list after its opening parenthesis, or after a comma. -/
def readItems (stop : Option Stuck) (lexemes : List Lexeme) :
    Except Stuck (List Arg × List Lexeme) :=
  match lexemes with
  | [] => atEnd stop .unterminatedList
  | first :: rest =>
    if first.token = .opening then .error ⟨first.start, .nestedList⟩
    else
      match _item : readScalar first rest with
      | .error stuck => .error stuck
      | .ok (_, []) => atEnd stop .unterminatedList
      | .ok (value, next :: rest) =>
        if next.token = .comma then
          match readItems stop rest with
          | .error stuck => .error stuck
          | .ok (values, rest) => .ok (value :: values, rest)
        else if next.token = .closing then .ok ([value], rest)
        else .error ⟨next.start, .expectedSeparator next.token⟩
termination_by lexemes.length
decreasing_by
  have := (readScalar_suffix _item).length_le
  simp only [List.length_cons] at this ⊢
  omega

/-- A list after its opening parenthesis. -/
def readList (stop : Option Stuck) (lexemes : List Lexeme) :
    Except Stuck (List Arg × List Lexeme) :=
  match lexemes with
  | [] => readItems stop []
  | first :: rest =>
    if first.token = .closing then .ok ([], rest) else readItems stop (first :: rest)

/-- A value after its assignment sign. -/
def readValue (stop : Option Stuck) (lexemes : List Lexeme) :
    Except Stuck (SettingValue × List Lexeme) :=
  match lexemes with
  | [] => atEnd stop .endBeforeValue
  | first :: rest =>
    if first.token = .opening then
      (readList stop rest).map fun read => (.list read.1, read.2)
    else (readScalar first rest).map fun read => (.scalar read.1, read.2)

/-- The lexemes after a setting's optional terminator. -/
def skipTerminator : List Lexeme → List Lexeme
  | [] => []
  | first :: rest =>
    if first.token = .semicolon ∨ first.token = .comma then rest else first :: rest

/-- The value of a setting after its name, and the lexemes after the setting. -/
def readAssigned (stop : Option Stuck) (lexemes : List Lexeme) :
    Except Stuck (SettingValue × List Lexeme) :=
  match lexemes with
  | [] => atEnd stop .endBeforeAssign
  | first :: rest =>
    if first.token = .assign then
      (readValue stop rest).map fun read => (read.1, skipTerminator read.2)
    else .error ⟨first.start, .expectedAssign first.token⟩

/-! ### What is left are the last lexemes -/

theorem readItems_suffix {stop : Option Stuck} {lexemes after : List Lexeme} {values : List Arg}
    (h : readItems stop lexemes = .ok (values, after)) : after <:+ lexemes := by
  fun_induction readItems stop lexemes generalizing values after with
  | case1 => simp [atEnd] at h
  | case2 => contradiction
  | case3 => contradiction
  | case4 => simp [atEnd] at h
  | case5 => contradiction
  | case6 first rest _ value next tail hitem _ values' rest' hrec ih =>
    simp only [Except.ok.injEq, Prod.mk.injEq] at h
    obtain ⟨-, rfl⟩ := h
    have hnext := (ih hrec).trans (List.suffix_cons next tail)
    exact (hnext.trans (readScalar_suffix hitem)).trans (List.suffix_cons first rest)
  | case7 first rest _ value next tail hitem =>
    simp only [Except.ok.injEq, Prod.mk.injEq] at h
    obtain ⟨-, rfl⟩ := h
    exact ((List.suffix_cons next tail).trans (readScalar_suffix hitem)).trans
      (List.suffix_cons first rest)
  | case8 => contradiction

theorem readList_suffix {stop : Option Stuck} {lexemes after : List Lexeme} {values : List Arg}
    (h : readList stop lexemes = .ok (values, after)) : after <:+ lexemes := by
  unfold readList at h
  split at h
  · exact readItems_suffix h
  · split at h
    · grind
    · exact readItems_suffix h

theorem readValue_suffix {stop : Option Stuck} {lexemes after : List Lexeme}
    {value : SettingValue} (h : readValue stop lexemes = .ok (value, after)) :
    after <:+ lexemes := by
  unfold readValue at h
  split at h
  · simp [atEnd] at h
  · rename_i first rest
    split at h
    · cases hread : readList stop rest with
      | error stuck => simp [hread, Except.map] at h
      | ok read =>
        simp only [hread, Except.map, Except.ok.injEq, Prod.mk.injEq] at h
        rw [← h.2]
        exact (readList_suffix hread).trans (List.suffix_cons first rest)
    · cases hread : readScalar first rest with
      | error stuck => simp [hread, Except.map] at h
      | ok read =>
        simp only [hread, Except.map, Except.ok.injEq, Prod.mk.injEq] at h
        rw [← h.2]
        exact (readScalar_suffix hread).trans (List.suffix_cons first rest)

theorem skipTerminator_suffix (lexemes : List Lexeme) : skipTerminator lexemes <:+ lexemes := by
  unfold skipTerminator
  split
  · exact List.suffix_rfl
  · split
    · exact List.suffix_cons _ _
    · exact List.suffix_rfl

theorem readAssigned_suffix {stop : Option Stuck} {lexemes after : List Lexeme}
    {value : SettingValue} (h : readAssigned stop lexemes = .ok (value, after)) :
    after <:+ lexemes := by
  unfold readAssigned at h
  split at h
  · simp [atEnd] at h
  · rename_i first rest
    split at h
    · cases hread : readValue stop rest with
      | error stuck => simp [hread, Except.map] at h
      | ok read =>
        simp only [hread, Except.map, Except.ok.injEq, Prod.mk.injEq] at h
        rw [← h.2]
        exact ((skipTerminator_suffix read.2).trans (readValue_suffix hread)).trans
          (List.suffix_cons first rest)
    · contradiction

/-- The settings that a scan's lexemes make up. -/
def readSettings (stop : Option Stuck) (lexemes : List Lexeme) : Except Stuck (List Setting) :=
  match lexemes with
  | [] =>
    match stop with
    | none => .ok []
    | some stuck => .error stuck
  | first :: rest =>
    match first.token with
    | .name name =>
      match _assigned : readAssigned stop rest with
      | .error stuck => .error stuck
      | .ok (value, after) =>
        (readSettings stop after).map fun settings => ⟨name, value⟩ :: settings
    | found => .error ⟨first.start, .expectedName found⟩
termination_by lexemes.length
decreasing_by
  exact Nat.lt_succ_of_le (readAssigned_suffix _assigned).length_le

end Settings

/-- Where and why a text is no sequence of settings; the offset counts the bytes before it. -/
structure Malformed where
  offset : Nat
  fault : Fault
  deriving DecidableEq

namespace Settings

/-- The number of bytes that characters take in a text. -/
def byteCount (cs : List Char) : Nat :=
  cs.foldr (fun c total => c.utf8Size + total) 0

/-- The settings of a text. -/
def read (text : String) : Except Malformed (List Setting) :=
  let scanned := scan text.toList
  match readSettings scanned.stop scanned.lexemes with
  | .ok settings => .ok settings
  | .error stuck => .error ⟨byteCount text.toList - byteCount stuck.rest, stuck.fault⟩

end AgentBus.Settings
