import AgentBus.Settings.Read

/-!
# The grammar of settings

What a text of settings is, said without a reader:

* `Spells` — the characters of each token, and what the token stands for;
* `Cut` — a token that is the longest one at its place, and that no character continues;
* `Tokenizes` — a text cut into such tokens, with nothing but spaces between them;
* `ScalarForm`, `ItemsForm`, `ValueForm`, `SettingsForm` — tokens that make up a scalar, the items
  of a list, a value, and a sequence of settings.

`IsSettings` puts the two levels together. `Settings.Reading` proves that `Settings.read` accepts
just these texts.
-/

namespace AgentBus.Settings

/-! ## Strings -/

/-- The escapes with one letter, each with the character it stands for. -/
def letterEscapes : List (Char × Char) :=
  [('\\', '\\'), ('"', '"'), ('n', '\n'), ('r', '\r'), ('t', '\t'), ('f', '\x0c')]

/-- How a character may be written between the quotes of a string. -/
inductive Written : List Char → Char → Prop where
  | plain {c : Char} : c ≠ '"' → c ≠ '\\' → Written [c] c
  | letter {e c : Char} : (e, c) ∈ letterEscapes → Written ['\\', e] c
  | hexadecimal {high low : Char} {h l : Nat} : hexValue? high = some h → hexValue? low = some l →
      Written ['\\', 'x', high, low] (Char.ofNat (16 * h + l))
  /-- A plus sign may stand for the first of the two digits. -/
  | plus {low : Char} {l : Nat} : hexValue? low = some l →
      Written ['\\', 'x', '+', low] (Char.ofNat l)

/-- How a text may be written between the quotes of a string. -/
inductive WrittenText : List Char → List Char → Prop where
  | nil : WrittenText [] []
  | cons {spelling rest text : List Char} {c : Char} : Written spelling c → WrittenText rest text →
      WrittenText (spelling ++ rest) (c :: text)

/-! ## Numbers -/

def IsSign (cs : List Char) : Prop :=
  cs = [] ∨ cs = ['+'] ∨ cs = ['-']

def AllDigits (cs : List Char) : Prop :=
  ∀ c ∈ cs, c.isDigit = true

/-- The long suffix of an integer, which may be left out. -/
def IsSuffix (cs : List Char) : Prop :=
  cs = [] ∨ cs = ['L']

/-- A magnitude with the sign that is written in front of it. -/
def signed (sign : List Char) (magnitude : Nat) : Int :=
  if sign = ['-'] then -(magnitude : Int) else magnitude

/-- An exponent is a letter, a sign that may be left out, and digits. -/
def IsExponent : Char × List Char × List Char → Prop
  | (letter, sign, digits) =>
    (letter = 'e' ∨ letter = 'E') ∧ IsSign sign ∧ digits ≠ [] ∧ AllDigits digits

structure Literal.WellFormed (l : Literal) : Prop where
  sign : IsSign l.sign
  whole : AllDigits l.whole
  fraction : ∀ digits, l.fraction = some digits → AllDigits digits
  exponent : ∀ written, l.exponent = some written → IsExponent written

/-- The characters of each number, and the argument that it stands for. -/
inductive NumberForm : List Char → Arg → Prop where
  /-- Decimal digits whose value has 64 bits. -/
  | decimal {sign digits suffix : List Char} : IsSign sign → digits ≠ [] → AllDigits digits →
      IsSuffix suffix → Int64.minValue.toInt ≤ signed sign (decimalValue digits) →
      signed sign (decimalValue digits) ≤ Int64.maxValue.toInt →
      NumberForm (sign ++ digits ++ suffix)
        (.ofInt (signed sign (decimalValue digits)) (suffix = ['L']))
  /-- Hexadecimal digits whose magnitude has 63 bits. -/
  | hexadecimal {sign digits suffix : List Char} {x : Char} : IsSign sign → x = 'x' ∨ x = 'X' →
      digits ≠ [] → (∀ c ∈ digits, isHexDigit c = true) → IsSuffix suffix →
      (hexadecimalValue digits : Int) ≤ Int64.maxValue.toInt →
      NumberForm (sign ++ '0' :: x :: digits ++ suffix)
        (.ofInt (signed sign (hexadecimalValue digits)) (suffix = ['L']))
  /-- A literal with a point or an exponent, and with a digit before its exponent. -/
  | float {l : Literal} : l.WellFormed → l.isFloat = true → l.mantissa ≠ [] →
      NumberForm l.chars (.float (Binary64.ofDecimal l.negative (decimalValue l.mantissa) l.scale))

/-! ## Tokens -/

/-- The characters of each token. -/
inductive Spells : List Char → Token → Prop where
  | assign {c : Char} : c = '=' ∨ c = ':' → Spells [c] .assign
  | opening : Spells ['('] .opening
  | closing : Spells [')'] .closing
  | comma : Spells [','] .comma
  | semicolon : Spells [';'] .semicolon
  | string {spelling text : List Char} : WrittenText spelling text →
      Spells ('"' :: (spelling ++ ['"'])) (.scalar (.str (String.ofList text)))
  | number {spelling : List Char} {value : Arg} : NumberForm spelling value →
      Spells spelling (.scalar value)
  | name {c : Char} {cs : List Char} : isNameStart c = true → (∀ d ∈ cs, isNameChar d = true) →
      Spells (c :: cs) (.name (String.ofList (c :: cs)))

/-- An argument that is written as a number. -/
def IsNumber : Arg → Prop
  | .int _ | .int64 _ | .float _ => True
  | .str _ | .bool _ => False

/-- No letter, digit, underscore or point comes next, which would continue a number. -/
def Ends (rest : List Char) : Prop :=
  rest.head?.any continuesNumber = false

/-- A token at the head of a text: no token that begins there is longer, and a number ends where
it does. -/
structure Cut (spelling rest : List Char) (token : Token) : Prop where
  spells : Spells spelling token
  longest : ∀ {other : List Char} {token : Token}, Spells other token →
    other <+: spelling ++ rest → other.length ≤ spelling.length
  ends : ∀ value, token = .scalar value → IsNumber value → Ends rest

def AllSpaces (cs : List Char) : Prop :=
  ∀ c ∈ cs, isSpace c = true

/-- A text cut into tokens, left to right. -/
inductive Tokenizes : List Char → List Token → Prop where
  | done {spaces : List Char} : AllSpaces spaces → Tokenizes spaces []
  | token {spaces spelling rest : List Char} {token : Token} {tokens : List Token} :
      AllSpaces spaces → Cut spelling rest token → Tokenizes rest tokens →
      Tokenizes (spaces ++ (spelling ++ rest)) (token :: tokens)

/-! ## Settings -/

/-- The tokens of a scalar: adjacent strings, a number, or a truth value in any case. -/
inductive ScalarForm : List Token → Arg → Prop where
  | strings {texts : List String} : texts ≠ [] →
      ScalarForm (texts.map fun text => .scalar (.str text)) (.str (String.join texts))
  | number {value : Arg} : IsNumber value → ScalarForm [.scalar value] value
  | bool {name : String} {value : Bool} : name.toLower = toString value →
      ScalarForm [.name name] (.bool value)

/-- The tokens of the items of a list: one scalar or more, with commas between them. -/
inductive ItemsForm : List Token → List Arg → Prop where
  | last {tokens : List Token} {value : Arg} : ScalarForm tokens value → ItemsForm tokens [value]
  | more {tokens rest : List Token} {value : Arg} {values : List Arg} : ScalarForm tokens value →
      ItemsForm rest values → ItemsForm (tokens ++ .comma :: rest) (value :: values)

inductive ValueForm : List Token → SettingValue → Prop where
  | scalar {tokens : List Token} {value : Arg} : ScalarForm tokens value →
      ValueForm tokens (.scalar value)
  | empty : ValueForm [.opening, .closing] (.list [])
  | list {tokens : List Token} {values : List Arg} : ItemsForm tokens values →
      ValueForm (.opening :: (tokens ++ [.closing])) (.list values)

/-- A setting may end with one semicolon or comma. -/
def IsTerminator (tokens : List Token) : Prop :=
  tokens = [] ∨ tokens = [.semicolon] ∨ tokens = [.comma]

inductive SettingsForm : List Token → List Setting → Prop where
  | nil : SettingsForm [] []
  | cons {name : String} {tokens terminator rest : List Token} {value : SettingValue}
      {settings : List Setting} : ValueForm tokens value → IsTerminator terminator →
      SettingsForm rest settings →
      SettingsForm (.name name :: .assign :: (tokens ++ (terminator ++ rest)))
        (⟨name, value⟩ :: settings)

def IsSettings (text : String) (settings : List Setting) : Prop :=
  ∃ tokens, Tokenizes text.toList tokens ∧ SettingsForm tokens settings

end AgentBus.Settings
