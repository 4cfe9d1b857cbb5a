import AgentBus.Settings.Basic

/-!
# Lexemes

`Settings.scan` cuts a text into lexemes, the longest possible one at each place, up to the end of
the text or to the first place where no lexeme can be formed. Every lexeme remembers the text that
begins with it, so that a later complaint can point at it.

Main statement: `readToken_length`, by which each lexeme takes at least one character and the scan
ends.
-/

namespace AgentBus.Settings

/-! ## Character classes -/

/-- The characters allowed between lexemes. -/
def isSpace (c : Char) : Bool :=
  c = ' ' || c = '\t' || c = '\n' || c = '\r' || c = '\x0c'

def isNameStart (c : Char) : Bool :=
  c.isAlpha || c = '*'

def isNameChar (c : Char) : Bool :=
  c.isAlphanum || c = '_' || c = '-' || c = '*'

def isNumberStart (c : Char) : Bool :=
  c.isDigit || c = '+' || c = '-' || c = '.'

/-- The characters that must not follow a number directly. -/
def continuesNumber (c : Char) : Bool :=
  c.isAlphanum || c = '_' || c = '.'

def isHexDigit (c : Char) : Bool :=
  (hexValue? c).isSome

/-! ## Strings -/

/-- The character of an escape with two hexadecimal digits. A plus sign in the first place counts
as a digit zero. -/
def hexEscape? (high low : Char) : Option Char :=
  match hexValue? low with
  | none => none
  | some units =>
    if high = '+' then some (Char.ofNat units)
    else (hexValue? high).map fun sixteens => Char.ofNat (16 * sixteens + units)

/-- The character of an escape with one letter. -/
def letterEscape? (c : Char) : Option Char :=
  if c = '\\' then some '\\'
  else if c = '"' then some '"'
  else if c = 'n' then some '\n'
  else if c = 'r' then some '\r'
  else if c = 't' then some '\t'
  else if c = 'f' then some '\x0c'
  else none

/-- Adds a character in front of the string that has been read. -/
def consChar (c : Char) (read : Except Stuck (List Char × List Char)) :
    Except Stuck (List Char × List Char) :=
  read.map fun read => (c :: read.1, read.2)

/-- The character of the escape behind a backslash, and the text after the escape. -/
def readEscape : List Char → Except Fault (Char × List Char)
  | [] => .error .unterminatedEscape
  | e :: rest =>
    if e = 'x' then
      match rest with
      | high :: low :: rest =>
        match hexEscape? high low with
        | some decoded => .ok (decoded, rest)
        | none => .error .invalidHexEscape
      | _ => .error .invalidHexEscape
    else
      match letterEscape? e with
      | some decoded => .ok (decoded, rest)
      | none => .error (.unknownEscape e)

theorem readEscape_length {cs rest : List Char} {c : Char}
    (h : readEscape cs = .ok (c, rest)) : rest.length < cs.length := by
  unfold readEscape at h
  split at h
  · contradiction
  · split at h
    · split at h
      · split at h <;> grind
      · contradiction
    · split at h <;> grind

/-- The string after its opening quote, and the text after its closing quote. A string without end
is reported at `start`, its opening quote, and a wrong escape at its backslash. -/
def readString (start : List Char) (cs : List Char) : Except Stuck (List Char × List Char) :=
  match cs with
  | [] => .error ⟨start, .unterminatedString⟩
  | c :: rest =>
    if c = '"' then .ok ([], rest)
    else if c = '\\' then
      match _escape : readEscape rest with
      | .error fault => .error ⟨c :: rest, fault⟩
      | .ok (decoded, after) => consChar decoded (readString start after)
    else consChar c (readString start rest)
termination_by cs.length
decreasing_by
  · exact Nat.lt_succ_of_lt (readEscape_length _escape)
  · simp

/-! ## Numbers -/

/-- The value of a run of hexadecimal digits. -/
def hexadecimalValue (digits : List Char) : Nat :=
  digits.foldl (fun value c => 16 * value + (hexValue? c).getD 0) 0

/-- The pieces of a decimal literal: sign, digits, fraction behind a point, and exponent with its
letter and sign. -/
structure Literal where
  sign : List Char
  whole : List Char
  fraction : Option (List Char)
  exponent : Option (Char × List Char × List Char)
  deriving DecidableEq

/-- The characters of a fraction. -/
def fractionChars : Option (List Char) → List Char
  | none => []
  | some digits => '.' :: digits

/-- The characters of an exponent. -/
def exponentChars : Option (Char × List Char × List Char) → List Char
  | none => []
  | some (letter, sign, digits) => letter :: (sign ++ digits)

namespace Literal

/-- The characters of the literal. -/
def chars (l : Literal) : List Char :=
  l.sign ++ l.whole ++ fractionChars l.fraction ++ exponentChars l.exponent

def isFloat (l : Literal) : Bool :=
  l.fraction.isSome || l.exponent.isSome

/-- The digits before and after the point. -/
def mantissa (l : Literal) : List Char :=
  l.whole ++ l.fraction.getD []

/-- The power of ten that the mantissa, read as an integer, is multiplied by. -/
def scale (l : Literal) : Int :=
  let written : Int :=
    match l.exponent with
    | none => 0
    | some (_, sign, digits) =>
      if sign = ['-'] then -(decimalValue digits : Int) else decimalValue digits
  written - (l.fraction.getD []).length

def negative (l : Literal) : Bool :=
  l.sign = ['-']

/-- The literal as a float: it needs a digit before or after the point. -/
def float? (l : Literal) : Option Binary64 :=
  if l.mantissa = [] then none
  else some (Binary64.ofDecimal l.negative (decimalValue l.mantissa) l.scale)

/-- The literal as a 64-bit integer: it needs a digit and must be in range. -/
def integer? (l : Literal) : Option Int :=
  let magnitude : Int := decimalValue l.whole
  let value := if l.negative then -magnitude else magnitude
  if l.whole ≠ [] ∧ Int64.minValue.toInt ≤ value ∧ value ≤ Int64.maxValue.toInt then some value
  else none

end Literal

/-- A sign, if there is one, and the text after it. -/
def splitSign : List Char → List Char × List Char
  | [] => ([], [])
  | c :: rest => if c = '+' || c = '-' then ([c], rest) else ([], c :: rest)

/-- The fraction of a literal, if a point follows. -/
def splitFraction : List Char → Option (List Char) × List Char
  | [] => (none, [])
  | c :: rest =>
    if c = '.' then (some (rest.takeWhile Char.isDigit), rest.dropWhile Char.isDigit)
    else (none, c :: rest)

/-- The exponent of a literal, if its letter follows. -/
def splitExponent : List Char → Option (Char × List Char × List Char) × List Char
  | [] => (none, [])
  | c :: rest =>
    if c = 'e' || c = 'E' then
      let digits := (splitSign rest).2
      (some (c, (splitSign rest).1, digits.takeWhile Char.isDigit), digits.dropWhile Char.isDigit)
    else (none, c :: rest)

/-- The longest decimal literal at the head of a text, after its sign. -/
def splitLiteral (sign rest : List Char) : Literal × List Char :=
  let fraction := splitFraction (rest.dropWhile Char.isDigit)
  let exponent := splitExponent fraction.2
  (⟨sign, rest.takeWhile Char.isDigit, fraction.1, exponent.1⟩, exponent.2)

/-- The long suffix of an integer, if it follows. -/
def splitLong : List Char → Bool × List Char
  | [] => (false, [])
  | c :: rest => if c = 'L' then (true, rest) else (false, c :: rest)

/-- A number ends where nothing follows that would continue it. -/
def endNumber (start : List Char) (value : Arg) (rest : List Char) :
    Except Stuck (Arg × List Char) :=
  if rest.head?.any continuesNumber then .error ⟨start, .malformedNumber⟩
  else .ok (value, rest)

/-- A hexadecimal integer, after its `0x`. Its magnitude must fit 63 bits whatever its sign. -/
def readHexadecimal (start : List Char) (negative : Bool) (rest : List Char) :
    Except Stuck (Arg × List Char) :=
  let digits := rest.takeWhile isHexDigit
  let magnitude := hexadecimalValue digits
  if digits = [] ∨ Int64.maxValue.toInt < magnitude then .error ⟨start, .invalidHexInteger⟩
  else
    let suffix := splitLong (rest.dropWhile isHexDigit)
    endNumber start (.ofInt (if negative then -(magnitude : Int) else magnitude) suffix.1) suffix.2

/-- A decimal integer or float, after its sign. -/
def readDecimal (start sign rest : List Char) : Except Stuck (Arg × List Char) :=
  let literal := (splitLiteral sign rest).1
  let rest := (splitLiteral sign rest).2
  if literal.exponent.any fun exponent => exponent.2.2 = [] then
    .error ⟨start, .missingExponent⟩
  else if literal.isFloat then
    if rest.head?.any continuesNumber then .error ⟨start, .malformedNumber⟩
    else
      match literal.float? with
      | some value => .ok (.float value, rest)
      | none => .error ⟨start, .invalidFloat (String.ofList literal.chars)⟩
  else
    match literal.integer? with
    | some value => endNumber start (.ofInt value (splitLong rest).1) (splitLong rest).2
    | none => .error ⟨start, .invalidInteger (String.ofList literal.chars)⟩

/-- Whether `0x` or `0X` follows. -/
def startsHexadecimal : List Char → Bool
  | zero :: x :: _ => zero = '0' && (x = 'x' || x = 'X')
  | _ => false

/-- The number at the head of a text, and the text after it. Whatever is wrong with a number is
reported at its first character. -/
def readNumber (start : List Char) : Except Stuck (Arg × List Char) :=
  let sign := (splitSign start).1
  let rest := (splitSign start).2
  if startsHexadecimal rest then readHexadecimal start (sign = ['-']) (rest.drop 2)
  else readDecimal start sign rest

/-! ## Tokens -/

/-- The token that begins with the character `c`, and the text after it. -/
def readToken (c : Char) (rest : List Char) : Except Stuck (Token × List Char) :=
  if c = '=' || c = ':' then .ok (.assign, rest)
  else if c = '(' then .ok (.opening, rest)
  else if c = ')' then .ok (.closing, rest)
  else if c = ',' then .ok (.comma, rest)
  else if c = ';' then .ok (.semicolon, rest)
  else if c = '"' then
    (readString (c :: rest) rest).map fun read => (.scalar (.str (String.ofList read.1)), read.2)
  else if isNumberStart c then
    (readNumber (c :: rest)).map fun read => (.scalar read.1, read.2)
  else if isNameStart c then
    .ok (.name (String.ofList (c :: rest.takeWhile isNameChar)), rest.dropWhile isNameChar)
  else .ok (.unsupported c, rest)

/-! ### Each token takes at least one character -/

theorem eq_of_consChar_eq_ok {c : Char} {read : Except Stuck (List Char × List Char)}
    {body rest : List Char} (h : consChar c read = .ok (body, rest)) :
    ∃ tail, read = .ok (tail, rest) ∧ body = c :: tail := by
  cases read with
  | error stuck => simp [consChar, Except.map] at h
  | ok read =>
    simp only [consChar, Except.map, Except.ok.injEq, Prod.mk.injEq] at h
    exact ⟨read.1, by rw [← h.2], h.1.symm⟩

theorem readString_length {start cs body rest : List Char}
    (h : readString start cs = .ok (body, rest)) : rest.length < cs.length := by
  induction cs using readString.induct generalizing body rest with
  | case1 => simp [readString] at h
  | case2 => simp_all [readString]
  | case3 => grind [readString]
  | case4 rest' decoded after escape hquote ih =>
    have hstep : consChar decoded (readString start after) = .ok (body, rest) := by
      grind [readString]
    obtain ⟨tail, hread, _⟩ := eq_of_consChar_eq_ok hstep
    have := ih hread
    have := readEscape_length escape
    simp only [List.length_cons]
    omega
  | case5 c rest' hquote hback ih =>
    rw [readString] at h
    simp only [hquote, hback, if_false] at h
    obtain ⟨tail, hread, _⟩ := eq_of_consChar_eq_ok h
    have := ih hread
    simp only [List.length_cons]
    omega

/-! ### The pieces of a literal are the text it was cut from -/

theorem splitSign_append (cs : List Char) : (splitSign cs).1 ++ (splitSign cs).2 = cs := by
  unfold splitSign
  split
  · rfl
  · split <;> rfl

theorem splitFraction_append (cs : List Char) :
    fractionChars (splitFraction cs).1 ++ (splitFraction cs).2 = cs := by
  unfold splitFraction
  split
  · rfl
  · split
    · simp_all [fractionChars]
    · rfl

theorem splitExponent_append (cs : List Char) :
    exponentChars (splitExponent cs).1 ++ (splitExponent cs).2 = cs := by
  unfold splitExponent
  split
  · rfl
  · split
    · simp [exponentChars, splitSign_append]
    · rfl

theorem splitLiteral_append (sign rest : List Char) :
    (splitLiteral sign rest).1.chars ++ (splitLiteral sign rest).2 = sign ++ rest := by
  simp only [splitLiteral, Literal.chars, List.append_assoc]
  rw [splitExponent_append, splitFraction_append, List.takeWhile_append_dropWhile]

theorem splitLong_length (cs : List Char) : (splitLong cs).2.length ≤ cs.length := by
  unfold splitLong
  split
  · simp
  · split <;> simp

theorem eq_of_endNumber_eq_ok {start rest after : List Char} {value read : Arg}
    (h : endNumber start value rest = .ok (read, after)) : read = value ∧ after = rest := by
  unfold endNumber at h
  split at h
  · contradiction
  · simp_all

theorem Literal.chars_ne_nil_of_isFloat {l : Literal} (h : l.isFloat) : l.chars ≠ [] := by
  cases hf : l.fraction <;> cases he : l.exponent <;>
    simp_all [Literal.isFloat, Literal.chars, fractionChars, exponentChars]

theorem Literal.chars_ne_nil_of_integer? {l : Literal} {value : Int}
    (h : l.integer? = some value) : l.chars ≠ [] := by
  unfold Literal.integer? at h
  cases hw : l.whole <;> simp_all [Literal.chars]

theorem readDecimal_length {start sign rest after : List Char} {value : Arg}
    (h : readDecimal start sign rest = .ok (value, after)) :
    after.length < (sign ++ rest).length := by
  have happ := congrArg List.length (splitLiteral_append sign rest)
  rw [List.length_append] at happ
  unfold readDecimal at h
  generalize (splitLiteral sign rest).1 = literal at h happ
  generalize (splitLiteral sign rest).2 = tail at h happ
  simp only at h
  split at h
  · contradiction
  · split at h
    · rename_i hfloat
      have := List.length_pos_iff.2 (Literal.chars_ne_nil_of_isFloat hfloat)
      split at h
      · contradiction
      · split at h <;> grind
    · split at h
      · rename_i hint
        have := List.length_pos_iff.2 (Literal.chars_ne_nil_of_integer? hint)
        obtain ⟨_, rfl⟩ := eq_of_endNumber_eq_ok h
        have := splitLong_length tail
        omega
      · contradiction

theorem readHexadecimal_length {start rest after : List Char} {negative : Bool} {value : Arg}
    (h : readHexadecimal start negative rest = .ok (value, after)) :
    after.length ≤ rest.length := by
  unfold readHexadecimal at h
  simp only at h
  split at h
  · contradiction
  · obtain ⟨_, rfl⟩ := eq_of_endNumber_eq_ok h
    exact Nat.le_trans (splitLong_length _) (length_dropWhile_le _ _)

theorem length_drop_two_lt {rest : List Char} (h : startsHexadecimal rest = true) :
    (rest.drop 2).length < rest.length := by
  match rest with
  | [] => simp [startsHexadecimal] at h
  | [_] => simp [startsHexadecimal] at h
  | _ :: _ :: tail =>
    simp only [List.drop_succ_cons, List.drop_zero, List.length_cons]
    omega

theorem readNumber_length {cs after : List Char} {value : Arg}
    (h : readNumber cs = .ok (value, after)) : after.length < cs.length := by
  have happ := splitSign_append cs
  unfold readNumber at h
  simp only at h
  split at h
  · rename_i hhex
    have := readHexadecimal_length h
    have := length_drop_two_lt hhex
    rw [← happ, List.length_append]
    omega
  · rw [← happ]
    exact readDecimal_length h

theorem eq_of_map_eq_ok {α : Type} {read : Except Stuck (α × List Char)} {f : α → Token}
    {token : Token} {after : List Char}
    (h : read.map (fun read => (f read.1, read.2)) = .ok (token, after)) :
    ∃ a, read = .ok (a, after) ∧ token = f a := by
  cases read with
  | error stuck => simp [Except.map] at h
  | ok read =>
    simp only [Except.map, Except.ok.injEq, Prod.mk.injEq] at h
    exact ⟨read.1, by rw [← h.2], h.1.symm⟩

/-- Each token takes at least the character it begins with. -/
theorem readToken_length {c : Char} {rest after : List Char} {token : Token}
    (h : readToken c rest = .ok (token, after)) : after.length < (c :: rest).length := by
  have hdrop := length_dropWhile_le isNameChar rest
  unfold readToken at h
  iterate 5
    split at h
    · grind
  split at h
  · obtain ⟨body, hbody, _⟩ :=
      eq_of_map_eq_ok (f := fun body => .scalar (.str (String.ofList body))) h
    exact Nat.lt_succ_of_lt (readString_length hbody)
  · split at h
    · obtain ⟨value, hvalue, _⟩ := eq_of_map_eq_ok (f := .scalar) h
      exact readNumber_length hvalue
    · split at h <;> grind

/-! ## The scan -/

/-- A token and the part of the text that begins with it. -/
structure Lexeme where
  start : List Char
  token : Token
  deriving DecidableEq

/-- The lexemes of a text up to its end or to the place where no lexeme could be formed. -/
structure Scan where
  lexemes : List Lexeme
  stop : Option Stuck
  deriving DecidableEq

/-- Puts a lexeme in front of a scan. -/
def Scan.cons (lexeme : Lexeme) (scan : Scan) : Scan :=
  { scan with lexemes := lexeme :: scan.lexemes }

/-- Cuts a text into lexemes, left to right, the longest possible one at each place. -/
def scan (cs : List Char) : Scan :=
  match cs with
  | [] => ⟨[], none⟩
  | c :: rest =>
    if isSpace c then scan rest
    else
      match _read : readToken c rest with
      | .error stuck => ⟨[], some stuck⟩
      | .ok (token, after) => (scan after).cons ⟨c :: rest, token⟩
termination_by cs.length
decreasing_by
  · simp
  · exact readToken_length _read

end AgentBus.Settings
