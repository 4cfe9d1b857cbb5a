import AgentBus.Json.Basic
import AgentBus.Json.Decimal

/-!
# Reading JSON

`Json.scan` cuts a text into tokens, and `Json.assemble` puts a value together from them: a reader
with a stack of the arrays and objects that are still open, of which there may be at most 127. Of
several entries with one key the last one counts.

A text is refused for a lone surrogate, a control character inside a string, a number beyond the
floats, and anything that follows the value.
-/

namespace AgentBus.Json

/-! ## Tokens -/

inductive Token where
  | openArray
  | closeArray
  | openObject
  | closeObject
  | colon
  | comma
  | null
  | bool (value : Bool)
  | number (value : JsonNumber)
  | string (value : String)
  deriving DecidableEq

def isSpace (c : Char) : Bool :=
  c = ' ' || c = '\t' || c = '\n' || c = '\r'

/-- The code unit of four hexadecimal digits, and the text after them. -/
def readUnit : List Char → Option (Nat × List Char)
  | a :: b :: c :: d :: rest =>
    match hexValue? a, hexValue? b, hexValue? c, hexValue? d with
    | some a, some b, some c, some d => some (((a * 16 + b) * 16 + c) * 16 + d, rest)
    | _, _, _, _ => none
  | _ => none

def isHighSurrogate (unit : Nat) : Bool :=
  0xd800 ≤ unit && unit < 0xdc00

def isLowSurrogate (unit : Nat) : Bool :=
  0xdc00 ≤ unit && unit < 0xe000

/-- The second unit of a surrogate pair, and the text after it. -/
def readLowSurrogate : List Char → Option (Nat × List Char)
  | back :: u :: rest =>
    if back = '\\' ∧ u = 'u' then
      match readUnit rest with
      | some (unit, rest) => if isLowSurrogate unit then some (unit, rest) else none
      | none => none
    else none
  | _ => none

/-- The character of an escape by code units, after its `\u`, and the text after it. -/
def readCodePoint (cs : List Char) : Option (Char × List Char) :=
  match readUnit cs with
  | none => none
  | some (unit, rest) =>
    if isHighSurrogate unit then
      match readLowSurrogate rest with
      | some (low, rest) =>
        some (Char.ofNat (0x10000 + (unit - 0xd800) * 0x400 + (low - 0xdc00)), rest)
      | none => none
    else if isLowSurrogate unit then none
    else some (Char.ofNat unit, rest)

/-- The character of an escape with one letter. -/
def letterEscape? (c : Char) : Option Char :=
  if c = '"' then some '"'
  else if c = '\\' then some '\\'
  else if c = '/' then some '/'
  else if c = 'b' then some '\x08'
  else if c = 'f' then some '\x0c'
  else if c = 'n' then some '\n'
  else if c = 'r' then some '\r'
  else if c = 't' then some '\t'
  else none

/-- The character of the escape behind a backslash, and the text after it. -/
def readEscape : List Char → Option (Char × List Char)
  | [] => none
  | e :: rest =>
    if e = 'u' then readCodePoint rest else (letterEscape? e).map fun c => (c, rest)

theorem readUnit_length {cs rest : List Char} {unit : Nat}
    (h : readUnit cs = some (unit, rest)) : rest.length < cs.length := by
  unfold readUnit at h
  split at h
  · split at h <;> grind
  · contradiction

theorem readLowSurrogate_length {cs rest : List Char} {unit : Nat}
    (h : readLowSurrogate cs = some (unit, rest)) : rest.length < cs.length := by
  unfold readLowSurrogate at h
  split at h
  · split at h
    · split at h
      · rename_i hunit
        have := readUnit_length hunit
        split at h <;> grind
      · contradiction
    · contradiction
  · contradiction

theorem readCodePoint_length {cs rest : List Char} {c : Char}
    (h : readCodePoint cs = some (c, rest)) : rest.length < cs.length := by
  unfold readCodePoint at h
  split at h
  · contradiction
  · rename_i hunit
    have := readUnit_length hunit
    split at h
    · split at h
      · rename_i hlow
        have := readLowSurrogate_length hlow
        grind
      · contradiction
    · split at h <;> grind

theorem readEscape_length {cs rest : List Char} {c : Char}
    (h : readEscape cs = some (c, rest)) : rest.length < cs.length := by
  unfold readEscape at h
  split at h
  · contradiction
  · split at h
    · have := readCodePoint_length h
      simp only [List.length_cons]
      omega
    · simp only [Option.map_eq_some_iff, Prod.mk.injEq] at h
      grind

/-- The string after its opening quote, and the text after its closing quote. -/
def readString (cs : List Char) : Option (List Char × List Char) :=
  match cs with
  | [] => none
  | c :: rest =>
    if c = '"' then some ([], rest)
    else if c = '\\' then
      match _escape : readEscape rest with
      | none => none
      | some (decoded, after) =>
        (readString after).map fun read => (decoded :: read.1, read.2)
    else if c.toNat < 0x20 then none
    else (readString rest).map fun read => (c :: read.1, read.2)
termination_by cs.length
decreasing_by
  · exact Nat.lt_succ_of_lt (readEscape_length _escape)
  · simp

theorem readString_length {cs body rest : List Char}
    (h : readString cs = some (body, rest)) : rest.length < cs.length := by
  induction cs using readString.induct generalizing body rest with
  | case1 => simp [readString] at h
  | case2 => simp_all [readString]
  | case3 => grind [readString]
  | case4 rest' decoded after escape hquote ih =>
    have hmap : (readString after).map (fun read => (decoded :: read.1, read.2)) =
        some (body, rest) := by
      grind [readString]
    obtain ⟨⟨tail, _⟩, hread, heq⟩ := Option.map_eq_some_iff.1 hmap
    simp only [Prod.mk.injEq] at heq
    have := ih (heq.2 ▸ hread)
    have := readEscape_length escape
    simp only [List.length_cons]
    omega
  | case5 => grind [readString]
  | case6 c rest' hquote hback hcontrol ih =>
    rw [readString] at h
    simp only [hquote, hback, hcontrol, if_false] at h
    obtain ⟨⟨tail, _⟩, hread, heq⟩ := Option.map_eq_some_iff.1 h
    simp only [Prod.mk.injEq] at heq
    have := ih (heq.2 ▸ hread)
    simp only [List.length_cons]
    omega

/-! ## Numbers -/

/-- The digits before the point: a zero alone, or digits that do not begin with one. -/
def readWhole : List Char → Option (List Char × List Char)
  | [] => none
  | c :: rest =>
    if c = '0' then some ([c], rest)
    else if c.isDigit then some (c :: rest.takeWhile Char.isDigit, rest.dropWhile Char.isDigit)
    else none

/-- The digits behind a point, if one follows: at least one digit. -/
def readFraction : List Char → Option (Option (List Char) × List Char)
  | [] => some (none, [])
  | c :: rest =>
    if c = '.' then
      let digits := rest.takeWhile Char.isDigit
      if digits = [] then none else some (some digits, rest.dropWhile Char.isDigit)
    else some (none, c :: rest)

/-- The sign of an exponent, as whether it is negative. -/
def readExponentSign : List Char → Bool × List Char
  | [] => (false, [])
  | c :: rest =>
    if c = '-' then (true, rest) else if c = '+' then (false, rest) else (false, c :: rest)

/-- The exponent, if its letter follows: at least one digit. -/
def readExponent : List Char → Option (Option Int × List Char)
  | [] => some (none, [])
  | c :: rest =>
    if c = 'e' ∨ c = 'E' then
      let signed := readExponentSign rest
      let digits := signed.2.takeWhile Char.isDigit
      let magnitude : Int := decimalValue digits
      if digits = [] then none
      else some (some (if signed.1 then -magnitude else magnitude), signed.2.dropWhile Char.isDigit)
    else some (none, c :: rest)

/-- The number with these pieces. Without fraction and exponent it is an integer if it fits 64
bits, except for the negative zero; a number beyond the floats is refused. -/
def number? (negative : Bool) (whole : List Char) (fraction : Option (List Char))
    (exponent : Option Int) : Option JsonNumber :=
  let magnitude := decimalValue whole
  let value : Int := if negative then -(magnitude : Int) else magnitude
  let isZero : Bool := magnitude = 0
  if fraction.isNone && exponent.isNone && !(negative && isZero) &&
      Int64.minValue.toInt ≤ value && value < UInt64.size then
    some (.integer value)
  else
    let decimal := Decimal.ofDigits whole (fraction.getD []) (exponent.getD 0)
    decimal.float?.map fun float => .float { float with negative }

/-- The number at the head of a text, after its sign. -/
def readUnsigned (negative : Bool) (cs : List Char) : Option (JsonNumber × List Char) :=
  match readWhole cs with
  | none => none
  | some (whole, rest) =>
    match readFraction rest with
    | none => none
    | some (fraction, rest) =>
      match readExponent rest with
      | none => none
      | some (exponent, rest) =>
        (number? negative whole fraction exponent).map fun value => (value, rest)

theorem readWhole_length {cs digits rest : List Char}
    (h : readWhole cs = some (digits, rest)) : rest.length < cs.length := by
  unfold readWhole at h
  split at h
  · contradiction
  · rename_i tail
    have := length_dropWhile_le Char.isDigit tail
    split at h
    · grind
    · split at h <;> grind

theorem readFraction_length {cs rest : List Char} {fraction : Option (List Char)}
    (h : readFraction cs = some (fraction, rest)) : rest.length ≤ cs.length := by
  unfold readFraction at h
  split at h
  · grind
  · rename_i tail
    have := length_dropWhile_le Char.isDigit tail
    grind

theorem readExponentSign_length (cs : List Char) :
    (readExponentSign cs).2.length ≤ cs.length := by
  unfold readExponentSign
  split <;> grind

theorem readExponent_length {cs rest : List Char} {exponent : Option Int}
    (h : readExponent cs = some (exponent, rest)) : rest.length ≤ cs.length := by
  unfold readExponent at h
  split at h
  · grind
  · rename_i tail
    have := readExponentSign_length tail
    have := length_dropWhile_le Char.isDigit (readExponentSign tail).2
    grind

theorem readUnsigned_length {cs rest : List Char} {negative : Bool} {value : JsonNumber}
    (h : readUnsigned negative cs = some (value, rest)) : rest.length < cs.length := by
  unfold readUnsigned at h
  split at h
  · contradiction
  · rename_i hwhole
    have := readWhole_length hwhole
    split at h
    · contradiction
    · rename_i hfraction
      have := readFraction_length hfraction
      split at h
      · contradiction
      · rename_i hexponent
        have := readExponent_length hexponent
        obtain ⟨_, _, heq⟩ := Option.map_eq_some_iff.1 h
        simp only [Prod.mk.injEq] at heq
        rw [← heq.2]
        omega

/-! ## The scan -/

/-- The token of a word that begins with the character `c`, and the text after it. -/
def readWord (c : Char) (rest : List Char) : Option (Token × List Char) :=
  if c = 'n' ∧ rest.take 3 = ['u', 'l', 'l'] then some (.null, rest.drop 3)
  else if c = 't' ∧ rest.take 3 = ['r', 'u', 'e'] then some (.bool true, rest.drop 3)
  else if c = 'f' ∧ rest.take 4 = ['a', 'l', 's', 'e'] then some (.bool false, rest.drop 4)
  else none

/-- The token that begins with the character `c`, and the text after it. -/
def readToken (c : Char) (rest : List Char) : Option (Token × List Char) :=
  if c = '[' then some (.openArray, rest)
  else if c = ']' then some (.closeArray, rest)
  else if c = '\x7b' then some (.openObject, rest)
  else if c = '\x7d' then some (.closeObject, rest)
  else if c = ':' then some (.colon, rest)
  else if c = ',' then some (.comma, rest)
  else if c = '"' then
    (readString rest).map fun read => (.string (String.ofList read.1), read.2)
  else if c = '-' then (readUnsigned true rest).map fun read => (.number read.1, read.2)
  else if c.isDigit then
    (readUnsigned false (c :: rest)).map fun read => (.number read.1, read.2)
  else readWord c rest

theorem readWord_length {c : Char} {rest after : List Char} {token : Token}
    (h : readWord c rest = some (token, after)) : after.length < (c :: rest).length := by
  unfold readWord at h
  grind

theorem readToken_length {c : Char} {rest after : List Char} {token : Token}
    (h : readToken c rest = some (token, after)) : after.length < (c :: rest).length := by
  unfold readToken at h
  iterate 6
    split at h
    · grind
  split at h
  · obtain ⟨⟨_, _⟩, hread, heq⟩ := Option.map_eq_some_iff.1 h
    simp only [Prod.mk.injEq] at heq
    exact Nat.lt_succ_of_lt (readString_length (heq.2 ▸ hread))
  · split at h
    · obtain ⟨⟨_, _⟩, hread, heq⟩ := Option.map_eq_some_iff.1 h
      simp only [Prod.mk.injEq] at heq
      exact Nat.lt_succ_of_lt (readUnsigned_length (heq.2 ▸ hread))
    · split at h
      · obtain ⟨⟨_, _⟩, hread, heq⟩ := Option.map_eq_some_iff.1 h
        simp only [Prod.mk.injEq] at heq
        exact readUnsigned_length (heq.2 ▸ hread)
      · exact readWord_length h

/-- The tokens of a text. -/
def scan (cs : List Char) : Option (List Token) :=
  match cs with
  | [] => some []
  | c :: rest =>
    if isSpace c then scan rest
    else
      match _read : readToken c rest with
      | none => none
      | some (token, after) => (scan after).map (token :: ·)
termination_by cs.length
decreasing_by
  · simp
  · exact readToken_length _read

/-! ## The value of the tokens -/

/-- An array or object whose end has not come yet: what it holds so far, and for an object the key
of the value that comes next. The items of an array are kept last first. -/
inductive Pending where
  | array (items : List Json)
  | object (entries : List (String × Json)) (key : String)

/-- How many arrays and objects may be open at one time. -/
def maxDepth : Nat := 127

mutual

/-- The value of a text from a place where a value has to begin. -/
def assemble (stack : List Pending) : List Token → Option Json
  | .null :: rest => afterValue stack .null rest
  | .bool value :: rest => afterValue stack (.bool value) rest
  | .number value :: rest => afterValue stack (.number value) rest
  | .string value :: rest => afterValue stack (.string value) rest
  | .openArray :: .closeArray :: rest =>
    if stack.length < maxDepth then afterValue stack (.array []) rest else none
  | .openArray :: rest =>
    if stack.length < maxDepth then assemble (.array [] :: stack) rest else none
  | .openObject :: .closeObject :: rest =>
    if stack.length < maxDepth then afterValue stack (.object []) rest else none
  | .openObject :: .string key :: .colon :: rest =>
    if stack.length < maxDepth then assemble (.object [] key :: stack) rest else none
  | _ => none

/-- The value of a text from the place behind a value. -/
def afterValue (stack : List Pending) (value : Json) : List Token → Option Json
  | [] =>
    match stack with
    | [] => some value
    | _ => none
  | .comma :: .string key :: .colon :: rest =>
    match stack with
    | .object entries last :: stack => assemble (.object (put last value entries) key :: stack) rest
    | _ => none
  | .comma :: rest =>
    match stack with
    | .array items :: stack => assemble (.array (value :: items) :: stack) rest
    | _ => none
  | .closeArray :: rest =>
    match stack with
    | .array items :: stack => afterValue stack (.array (value :: items).reverse) rest
    | _ => none
  | .closeObject :: rest =>
    match stack with
    | .object entries last :: stack => afterValue stack (.object (put last value entries)) rest
    | _ => none
  | _ => none

end

/-- The value that a text holds, if it holds exactly one. -/
def read (text : String) : Option Json :=
  (scan text.toList).bind (assemble [])

end AgentBus.Json
