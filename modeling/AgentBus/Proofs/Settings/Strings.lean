import AgentBus.Proofs.Settings.Grammar

/-!
# The reader of strings

`readString` reads the strings of the grammar: `readString_of_writtenText` says that it takes what
is written between two quotes, and `writtenText_of_readString` that it takes nothing else. The
lemmas on runs of characters stand in front because every reader of tokens takes runs.
-/

namespace AgentBus.Settings

/-! ## Runs of characters -/

section Runs

variable {p : Char → Bool} {run rest : List Char}

theorem takeWhile_run (all : ∀ c ∈ run, p c = true) (stop : rest.head?.any p = false) :
    (run ++ rest).takeWhile p = run := by
  rw [List.takeWhile_append_of_pos all]
  cases rest with
  | nil => simp
  | cons c rest => simp_all

theorem dropWhile_run (all : ∀ c ∈ run, p c = true) (stop : rest.head?.any p = false) :
    (run ++ rest).dropWhile p = rest := by
  rw [List.dropWhile_append_of_pos all]
  cases rest with
  | nil => rfl
  | cons c rest => simp_all

theorem mem_takeWhile {c : Char} (member : c ∈ rest.takeWhile p) : p c = true :=
  List.all_eq_true.mp List.all_takeWhile c member

theorem head_dropWhile (p : Char → Bool) (cs : List Char) :
    (cs.dropWhile p).head?.any p = false := by
  have stop := List.head?_dropWhile_not p cs
  cases head : (cs.dropWhile p).head? with
  | none => rfl
  | some c => simpa [head] using stop

/-- Where no character of a class comes next, none of a smaller class does. -/
theorem head_of_imp {q : Char → Bool} (stop : rest.head?.any q = false)
    (smaller : ∀ c, p c = true → q c = true) : rest.head?.any p = false := by
  cases rest with
  | nil => rfl
  | cons c rest =>
    cases holds : p c with
    | false => simpa using holds
    | true => simp [smaller c holds] at stop

end Runs

/-! ## Strings -/

theorem letterEscape?_eq_some_iff {e c : Char} :
    letterEscape? e = some c ↔ (e, c) ∈ letterEscapes := by
  simp only [letterEscape?, letterEscapes, List.mem_cons, Prod.mk.injEq, List.not_mem_nil, or_false]
  constructor
  · intro read
    repeat' split at read
    all_goals cases read
    all_goals simp_all
  · rintro (⟨rfl, rfl⟩ | ⟨rfl, rfl⟩ | ⟨rfl, rfl⟩ | ⟨rfl, rfl⟩ | ⟨rfl, rfl⟩ | ⟨rfl, rfl⟩) <;> rfl

/-- No escape with one letter has the letter of the hexadecimal ones. -/
theorem ne_x_of_mem_letterEscapes {e c : Char} (member : (e, c) ∈ letterEscapes) : e ≠ 'x' := by
  rintro rfl
  simp [letterEscapes] at member

theorem hexValue?_plus : hexValue? '+' = none := by decide

theorem readEscape_of_written {spelling : List Char} {c : Char}
    (written : Written ('\\' :: spelling) c) (rest : List Char) :
    readEscape (spelling ++ rest) = .ok (c, rest) := by
  cases written with
  | plain _ noBackslash => exact absurd rfl noBackslash
  | letter member =>
    have read := letterEscape?_eq_some_iff.mpr member
    simp [readEscape, ne_x_of_mem_letterEscapes member, read]
  | @hexadecimal high low h l readHigh readLow =>
    have noPlus : high ≠ '+' := by
      rintro rfl
      simp [hexValue?_plus] at readHigh
    simp [readEscape, hexEscape?, noPlus, readHigh, readLow]
  | plus readLow => simp [readEscape, hexEscape?, readLow]

theorem written_of_hexEscape? {high low c : Char} (decoded : hexEscape? high low = some c) :
    Written ['\\', 'x', high, low] c := by
  unfold hexEscape? at decoded
  cases readLow : hexValue? low with
  | none => simp [readLow] at decoded
  | some l =>
    simp only [readLow] at decoded
    split at decoded
    · next isPlus =>
      obtain rfl := Option.some.inj decoded
      exact isPlus ▸ .plus readLow
    · obtain ⟨h, readHigh, rfl⟩ := Option.map_eq_some_iff.mp decoded
      exact .hexadecimal readHigh readLow

theorem written_of_readEscape {cs rest : List Char} {c : Char}
    (read : readEscape cs = .ok (c, rest)) :
    ∃ spelling, cs = spelling ++ rest ∧ Written ('\\' :: spelling) c := by
  cases cs with
  | nil => simp [readEscape] at read
  | cons e tail =>
    by_cases hexadecimal : e = 'x'
    · subst hexadecimal
      cases tail with
      | nil => simp [readEscape] at read
      | cons high tail =>
        cases tail with
        | nil => simp [readEscape] at read
        | cons low tail =>
          cases decoded : hexEscape? high low with
          | none => simp [readEscape, decoded] at read
          | some d =>
            obtain ⟨rfl, rfl⟩ : d = c ∧ tail = rest := by simpa [readEscape, decoded] using read
            exact ⟨['x', high, low], rfl, written_of_hexEscape? decoded⟩
    · cases decoded : letterEscape? e with
      | none => simp [readEscape, hexadecimal, decoded] at read
      | some d =>
        obtain ⟨rfl, rfl⟩ : d = c ∧ tail = rest := by
          simpa [readEscape, hexadecimal, decoded] using read
        exact ⟨[e], rfl, .letter (letterEscape?_eq_some_iff.mp decoded)⟩

theorem readString_of_written {spelling : List Char} {c : Char} (written : Written spelling c)
    (start rest : List Char) :
    readString start (spelling ++ rest) = consChar c (readString start rest) := by
  have escaped : ∀ escape, Written ('\\' :: escape) c →
      readString start ('\\' :: escape ++ rest) = consChar c (readString start rest) := by
    intro escape written
    have read := readEscape_of_written written rest
    rw [List.cons_append, readString, if_neg (by decide), if_pos rfl]
    split
    · next failed => simp [read] at failed
    · next succeeded =>
      obtain ⟨rfl, rfl⟩ : c = _ ∧ rest = _ := by simpa [read] using succeeded
      rfl
  cases written with
  | plain noQuote noBackslash =>
    rw [List.cons_append, List.nil_append, readString]
    simp [noQuote, noBackslash]
  | letter member => exact escaped _ (.letter member)
  | hexadecimal readHigh readLow => exact escaped _ (.hexadecimal readHigh readLow)
  | plus readLow => exact escaped _ (.plus readLow)

theorem readString_of_writtenText {spelling text : List Char} (written : WrittenText spelling text)
    (start rest : List Char) :
    readString start (spelling ++ '"' :: rest) = .ok (text, rest) := by
  induction written with
  | nil => simp [readString]
  | cons first _ ih => rw [List.append_assoc, readString_of_written first, ih]; rfl

theorem writtenText_of_readString {start cs text rest : List Char}
    (read : readString start cs = .ok (text, rest)) :
    ∃ spelling, cs = spelling ++ '"' :: rest ∧ WrittenText spelling text := by
  -- As the reader goes: the quote, an escape that is wrong or right, and any other character
  induction cs using readString.induct generalizing text with
  | case1 => simp [readString] at read
  | case2 tail =>
    obtain ⟨rfl, rfl⟩ : [] = text ∧ tail = rest := by simpa [readString] using read
    exact ⟨[], rfl, .nil⟩
  | case3 tail fault failed noQuote =>
    rw [readString, if_neg noQuote, if_pos rfl] at read
    split at read
    · contradiction
    · next succeeded => simp [failed] at succeeded
  | case4 tail decoded after readBack noQuote ih =>
    have step : consChar decoded (readString start after) = .ok (text, rest) := by
      rw [readString, if_neg noQuote, if_pos rfl] at read
      split at read
      · contradiction
      · next readBack' =>
        obtain ⟨rfl, rfl⟩ := Prod.mk.inj (Except.ok.inj (readBack.symm.trans readBack'))
        exact read
    obtain ⟨body, readBody, rfl⟩ := eq_of_consChar_eq_ok step
    obtain ⟨spelling, rfl, written⟩ := ih readBody
    obtain ⟨escape, rfl, writtenEscape⟩ := written_of_readEscape readBack
    exact ⟨'\\' :: escape ++ spelling, by simp, .cons writtenEscape written⟩
  | case5 c tail noQuote noBackslash ih =>
    rw [readString] at read
    simp only [noQuote, noBackslash, if_false] at read
    obtain ⟨body, readBody, rfl⟩ := eq_of_consChar_eq_ok read
    obtain ⟨spelling, rfl, written⟩ := ih readBody
    exact ⟨[c] ++ spelling, rfl, .cons (.plain noQuote noBackslash) written⟩

end AgentBus.Settings
