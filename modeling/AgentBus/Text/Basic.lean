/-!
# Characters and texts

What every reader and writer of texts shares:

* `isControl`: the general category Cc; `isBlank`: the property White_Space, by which lines are
  trimmed and found empty.
* `trimEnd`, `isBlankLine`: a text without its trailing blanks, and the test for nothing but blanks.
* `pieces`: a list cut at every separator.
* `decimalValue`, `hexValue?`: the values of runs of decimal digits and of hexadecimal digits.
-/

namespace AgentBus

namespace Text

/-! ## Controls and blanks -/

/-- Control characters: U+0000 to U+001F and U+007F to U+009F. -/
def isControl (c : Char) : Bool :=
  c.toNat < 0x20 || (0x7f ≤ c.toNat && c.toNat < 0xa0)

/-- The characters of the property White_Space. -/
def isBlank (c : Char) : Bool :=
  let code := c.toNat
  (0x9 ≤ code && code ≤ 0xd) || code = 0x20 || code = 0x85 || code = 0xa0 || code = 0x1680 ||
    (0x2000 ≤ code && code ≤ 0x200a) || code = 0x2028 || code = 0x2029 || code = 0x202f ||
    code = 0x205f || code = 0x3000

/-- The characters up to the last one that is not blank. -/
def dropTrailingBlanks : List Char → List Char
  | [] => []
  | c :: rest =>
    match dropTrailingBlanks rest with
    | [] => if isBlank c then [] else [c]
    | kept => c :: kept

/-- The text without the blanks at its end. -/
def trimEnd (text : String) : String :=
  String.ofList (dropTrailingBlanks text.toList)

/-- Whether the text holds nothing but blanks. -/
def isBlankLine (text : String) : Bool :=
  text.toList.all isBlank

/-! ## Pieces -/

section

variable {α : Type} [DecidableEq α]

/-- The pieces of a list between its separators: one more than there are separators. -/
def pieces (separator : α) : List α → List (List α)
  | [] => [[]]
  | a :: rest =>
    if a = separator then [] :: pieces separator rest
    else
      match pieces separator rest with
      | [] => [[a]]
      | piece :: others => (a :: piece) :: others

end

end Text

/-! ## Digits -/

/-- The value of a run of digits with one more decimal digit behind it. -/
def pushDigit (value : Nat) (c : Char) : Nat :=
  10 * value + (c.toNat - '0'.toNat)

/-- The value of a run of decimal digits. -/
def decimalValue (digits : List Char) : Nat :=
  digits.foldl pushDigit 0

/-- The value of a hexadecimal digit of either case. -/
def hexValue? (c : Char) : Option Nat :=
  if c.isDigit then some (c.toNat - '0'.toNat)
  else if 'a' ≤ c ∧ c ≤ 'f' then some (c.toNat - 'a'.toNat + 10)
  else if 'A' ≤ c ∧ c ≤ 'F' then some (c.toNat - 'A'.toNat + 10)
  else none

/-- What is left behind a run of characters is no longer than the text. -/
theorem length_dropWhile_le (p : Char → Bool) (cs : List Char) :
    (cs.dropWhile p).length ≤ cs.length :=
  (List.dropWhile_suffix p).length_le

end AgentBus
