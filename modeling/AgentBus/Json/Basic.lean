import AgentBus.Numeral.Binary64

/-!
# JSON values

A `Json` value keeps the entries of an object in the order in which their keys first came; every
operation keeps the keys of an object apart. A number is an integer of at most 64 bits or a float.
-/

namespace AgentBus

/-- A number: an unsigned or signed 64-bit integer, or a float for everything else. -/
inductive JsonNumber where
  | integer (value : Int)
  | float (value : Binary64)
  deriving DecidableEq

/-- A JSON value. -/
inductive Json where
  | null
  | bool (value : Bool)
  | number (value : JsonNumber)
  | string (value : String)
  | array (items : List Json)
  | object (entries : List (String × Json))

namespace Json

/-- The value under a key. -/
def lookup (key : String) : List (String × Json) → Option Json
  | [] => none
  | (k, value) :: rest => if k = key then some value else lookup key rest

/-- The entries with a value under a key: in place if the key is there, at the end if not. -/
def put (key : String) (value : Json) : List (String × Json) → List (String × Json)
  | [] => [(key, value)]
  | (k, old) :: rest => if k = key then (k, value) :: rest else (k, old) :: put key value rest

def isObject : Json → Bool
  | .object _ => true
  | _ => false

/-- The value under a key of an object. -/
def get? (key : String) : Json → Option Json
  | .object entries => lookup key entries
  | _ => none

/-- The value at the end of a path of keys. -/
def atPath? : List String → Json → Option Json
  | [], tree => some tree
  | key :: path, tree => (tree.get? key).bind (atPath? path)

def asInt? : Json → Option Int
  | .number (.integer value) => some value
  | _ => none

def items : Json → List Json
  | .array items => items
  | _ => []

end Json

end AgentBus
