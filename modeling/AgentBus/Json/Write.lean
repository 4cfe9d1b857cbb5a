import AgentBus.Json.Basic
import AgentBus.Numeral.Shortest

/-!
# JSON texts

`Json.compact` writes a value without any space, `Json.pretty` one entry a line with two spaces for
each level. Strings are written the same way by both: only quotes, backslashes and characters below
U+0020 are escaped.
-/

namespace AgentBus.Json

/-- How one character stands in a string. -/
def escapeChar (c : Char) : List Char :=
  if c = '"' then ['\\', '"']
  else if c = '\\' then ['\\', '\\']
  else if c = '\x08' then ['\\', 'b']
  else if c = '\x0c' then ['\\', 'f']
  else if c = '\n' then ['\\', 'n']
  else if c = '\r' then ['\\', 'r']
  else if c = '\t' then ['\\', 't']
  else if c.toNat < 0x20 then
    ['\\', 'u', '0', '0', Nat.digitChar (c.toNat / 16), Nat.digitChar (c.toNat % 16)]
  else [c]

/-- A string between its quotes. -/
def stringText (text : String) : String :=
  String.ofList ('"' :: (text.toList.flatMap escapeChar ++ ['"']))

/-- A float always shows that it is none of the integers. -/
def floatText (value : Binary64) : String :=
  if value.isInfinite then "null"
  else if value.text.toList.contains '.' then value.text
  else value.text ++ ".0"

def numberText : JsonNumber → String
  | .integer value => toString value
  | .float value => floatText value

def boolText (value : Bool) : String :=
  if value then "true" else "false"

mutual

/-- The value without any space. -/
def compact : Json → String
  | .null => "null"
  | .bool value => boolText value
  | .number value => numberText value
  | .string value => stringText value
  | .array items => "[" ++ ",".intercalate (compactItems items) ++ "]"
  | .object entries => "\x7b" ++ ",".intercalate (compactEntries entries) ++ "\x7d"

def compactItems : List Json → List String
  | [] => []
  | item :: rest => compact item :: compactItems rest

def compactEntries : List (String × Json) → List String
  | [] => []
  | (key, value) :: rest => (stringText key ++ ":" ++ compact value) :: compactEntries rest

end

/-- The indentation of a level. -/
def indent (level : Nat) : String :=
  String.ofList (List.replicate (2 * level) ' ')

/-- The parts of an array or object, one a line, one level deeper than its brackets. -/
def block (level : Nat) (opening closing : String) (parts : List String) : String :=
  if parts.isEmpty then opening ++ closing
  else
    opening ++ "\n" ++ ",\n".intercalate (parts.map (indent (level + 1) ++ ·)) ++ "\n" ++
      indent level ++ closing

mutual

/-- The value at a level of indentation, one entry a line. -/
def prettyAt (level : Nat) : Json → String
  | .null => "null"
  | .bool value => boolText value
  | .number value => numberText value
  | .string value => stringText value
  | .array items => block level "[" "]" (prettyItems (level + 1) items)
  | .object entries => block level "\x7b" "\x7d" (prettyEntries (level + 1) entries)

def prettyItems (level : Nat) : List Json → List String
  | [] => []
  | item :: rest => prettyAt level item :: prettyItems level rest

def prettyEntries (level : Nat) : List (String × Json) → List String
  | [] => []
  | (key, value) :: rest =>
    (stringText key ++ ": " ++ prettyAt level value) :: prettyEntries level rest

end

/-- The value, one entry a line. -/
def pretty (value : Json) : String :=
  prettyAt 0 value

end AgentBus.Json
