import AgentBus.Numeral.Shortest
import AgentBus.Text.Basic

/-!
# Settings

A text of the protocol is a sequence of settings `name = value`, where a value is a scalar or a
flat list of scalars. This module holds the values; `Settings.Scan` cuts a text into lexemes and
`Settings.Read` puts settings together from them.
-/

namespace AgentBus

/-- A scalar of the settings language, and thereby a positional argument of a command. -/
inductive Arg where
  | int (value : Int32)
  | int64 (value : Int64)
  | float (value : Binary64)
  | str (value : String)
  | bool (value : Bool)
  deriving DecidableEq

namespace Arg

/-- The name of the argument's type. -/
def kindName : Arg → String
  | .int _ => "int"
  | .int64 _ => "int64"
  | .float _ => "float"
  | .str _ => "string"
  | .bool _ => "bool"

/-- The argument as it is shown and echoed: strings stand for themselves. -/
def text : Arg → String
  | .int value => toString value.toInt
  | .int64 value => toString value.toInt
  | .float value => value.text
  | .str value => value
  | .bool value => if value then "true" else "false"

def asInt? : Arg → Option Int32
  | .int value => some value
  | _ => none

def asInt64? : Arg → Option Int64
  | .int64 value => some value
  | _ => none

def asFloat? : Arg → Option Binary64
  | .float value => some value
  | _ => none

def asStr? : Arg → Option String
  | .str value => some value
  | _ => none

def asBool? : Arg → Option Bool
  | .bool value => some value
  | _ => none

/-- Equality of arguments: floats are compared as numbers, so the two zeros agree. -/
def same : Arg → Arg → Bool
  | .float x, .float y => x.sameNumber y
  | x, y => x = y

/-- An integer argument: the narrow type if the value fits it and no long suffix asks for more. -/
def ofInt (value : Int) (long : Bool) : Arg :=
  if !long && Int32.minValue.toInt ≤ value && value ≤ Int32.maxValue.toInt then
    .int (Int32.ofInt value)
  else .int64 (Int64.ofInt value)

end Arg

/-- What stands behind the name of a setting. -/
inductive SettingValue where
  | scalar (value : Arg)
  | list (items : List Arg)
  deriving DecidableEq

/-- A setting `name = value`. -/
structure Setting where
  name : String
  value : SettingValue
  deriving DecidableEq

/-- The tokens of the settings language. -/
inductive Token where
  | name (text : String)
  | scalar (value : Arg)
  | assign
  | opening
  | closing
  | comma
  | semicolon
  | unsupported (c : Char)
  deriving DecidableEq

/-- How a token is named in a complaint. -/
def Token.description : Token → String
  | .name text => "name '" ++ text ++ "'"
  | .scalar value => value.kindName ++ " value"
  | .assign => "'='"
  | .opening => "'('"
  | .closing => "')'"
  | .comma => "','"
  | .semicolon => "';'"
  | .unsupported c => "unsupported character '" ++ c.toString ++ "'"

/-- What can be wrong with a text of settings. -/
inductive Fault where
  | unterminatedString
  | unterminatedEscape
  | invalidHexEscape
  | unknownEscape (c : Char)
  | invalidHexInteger
  | missingExponent
  | malformedNumber
  | invalidFloat (literal : String)
  | invalidInteger (literal : String)
  | expectedName (found : Token)
  | expectedAssign (found : Token)
  | endBeforeAssign
  | endBeforeValue
  | unterminatedList
  | nestedList
  | expectedSeparator (found : Token)
  | expectedScalar (found : Token)
  deriving DecidableEq

/-- The wording of each fault. -/
def Fault.message : Fault → String
  | .unterminatedString => "unterminated string"
  | .unterminatedEscape => "unterminated escape"
  | .invalidHexEscape => "invalid \\x escape"
  | .unknownEscape c => "unknown escape '\\" ++ c.toString ++ "'"
  | .invalidHexInteger => "invalid hex integer"
  | .missingExponent => "missing exponent digits"
  | .malformedNumber => "malformed number"
  | .invalidFloat literal => "invalid float '" ++ literal ++ "'"
  | .invalidInteger literal => "invalid integer '" ++ literal ++ "'"
  | .expectedName found => "expected a name, found " ++ found.description
  | .expectedAssign found => "expected '=', found " ++ found.description
  | .endBeforeAssign => "expected '=' before end of text"
  | .endBeforeValue => "expected a value before end of text"
  | .unterminatedList => "unterminated list"
  | .nestedList => "nested lists are not supported"
  | .expectedSeparator found => "expected ',' or ')', found " ++ found.description
  | .expectedScalar found => "expected a scalar, found " ++ found.description

/-- A fault together with the part of the text that begins where it was found. -/
structure Stuck where
  rest : List Char
  fault : Fault
  deriving DecidableEq

end AgentBus
