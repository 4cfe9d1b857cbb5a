import AgentBus.Config.Tree
import AgentBus.Config.Validation
import AgentBus.Json.Read
import AgentBus.Json.Write

/-!
# Loading a configuration

A configuration is put together from three layers: the defaults, the configuration file laid over
them, and the environment variables that name a setting. The result has to fit the types of the
settings and has to be valid.

* `Json.overlay` lays one tree over another, key by key.
* `Json.override?` replaces one leaf of a tree, and fails if the path names none.
* `Config.load` puts the layers together; `Config.fileText` is what a saved file holds.
-/

namespace AgentBus

/-! ## The file layer -/

namespace Json

mutual

/-- Lays a tree over another one: objects are merged key by key, anything else replaces. -/
def overlay (base : Json) : Json → Json
  | .object entries =>
    match base with
    | .object defaults => .object (overlayEntries defaults entries)
    | _ => .object entries
  | value => value

/-- Lays entries over those of an object. -/
def overlayEntries (base : List (String × Json)) :
    List (String × Json) → List (String × Json)
  | [] => base
  | (key, value) :: rest =>
    match lookup key base with
    | some old => overlayEntries (put key (overlay old value) base) rest
    | none => overlayEntries (put key value base) rest

end

/-! ## The environment layer -/

/-- The tree with another value at a path, if the path leads to something that is no object. -/
def override? (tree : Json) (path : List String) (value : Json) : Option Json :=
  match path with
  | [] => if tree.isObject then none else some value
  | key :: path =>
    match tree with
    | .object entries =>
      match lookup key entries with
      | some old => (override? old path value).map fun new => .object (put key new entries)
      | none => none
    | _ => none

/-- The tree with another value at a path, unchanged if the path names no leaf. -/
def overrideAt (tree : Json) (path : List String) (value : Json) : Json :=
  (tree.override? path value).getD tree

end Json

namespace Environment

/-- What the name of a variable begins with to name a setting. -/
def marker : String := "AGH__"

/-- Adds a character in front of the first segment. -/
def consSegment (c : Char) : List (List Char) → List (List Char)
  | [] => [[c]]
  | segment :: rest => (c :: segment) :: rest

/-- The segments of a text between double underscores, from left to right. -/
def segments : List Char → List (List Char)
  | [] => [[]]
  | [c] => [[c]]
  | c :: d :: rest =>
    if c = '_' ∧ d = '_' then [] :: segments rest else consSegment c (segments (d :: rest))

/-- The path of the setting that a variable names: its segments without the empty ones, lower
case. -/
def path? (name : String) : Option (List String) :=
  let cs := name.toList
  if cs.take marker.length = marker.toList then
    let path :=
      ((segments (cs.drop marker.length)).filter (· ≠ [])).map fun segment =>
        (String.ofList segment).toLower
    if path = [] then none else some path
  else none

/-- The order of overrides: by path, and for one path by value. -/
def overrideLe (a b : List String × String) : Bool :=
  match compare a.1 b.1 with
  | .lt => true
  | .eq => (compare a.2 b.2).isLE
  | .gt => false

/-- The overrides among the variables, sorted. -/
def overrides (environment : List (String × String)) : List (List String × String) :=
  (environment.filterMap fun (name, value) => (path? name).map fun path => (path, value)).mergeSort
    overrideLe

/-- The tree of a variable's value: what it says as JSON, else a boolean in any case, else the
text itself. -/
def valueTree (value : String) : Json :=
  match Json.read value with
  | some tree => tree
  | none =>
    if value.toLower = "true" then .bool true
    else if value.toLower = "false" then .bool false
    else .string value

end Environment

/-! ## Loading -/

/-- Why a configuration cannot be loaded. -/
inductive ConfigError where
  | unreadable (reason : String)
  | notJson
  | unfit
  | invalid (faults : List ConfigFault)
  deriving DecidableEq

/-- The wording of each error. -/
def ConfigError.message : ConfigError → String
  | .unreadable reason => "I/O error: " ++ reason
  | .notJson => "Configuration error: the configuration file is not JSON"
  | .unfit => "Serialization error: a setting has the wrong type"
  | .invalid faults => "Validation error: " ++ "; ".intercalate (faults.map ConfigFault.message)

/-- The configuration file: not there, unreadable for some reason, or its text. -/
inductive ConfigFile where
  | absent
  | unreadable (reason : String)
  | text (content : String)
  deriving DecidableEq

namespace Config

/-- The configuration itself if it is valid, else everything that is wrong with it. -/
def validate (config : Config) : Except ConfigError Config :=
  if config.isValid then .ok config else .error (.invalid config.faults)

/-- The tree of the defaults with the file laid over them. -/
def fileTree : ConfigFile → Except ConfigError Json
  | .absent => .ok ({} : Config).toJson
  | .unreadable reason => .error (.unreadable reason)
  | .text content =>
    match Json.read content with
    | some file => .ok (({} : Config).toJson.overlay file)
    | none => .error .notJson

/-- The tree with the overrides of the environment applied one after another. -/
def overriddenTree (tree : Json) (environment : List (String × String)) : Json :=
  (Environment.overrides environment).foldl
    (fun tree (path, value) => tree.overrideAt path (Environment.valueTree value)) tree

/-- The configuration of a file and an environment. -/
def load (file : ConfigFile) (environment : List (String × String)) : Except ConfigError Config :=
  match fileTree file with
  | .error error => .error error
  | .ok tree =>
    match ofJson? (overriddenTree tree environment) with
    | none => .error .unfit
    | some config => config.validate

/-- The text under which a configuration is saved. -/
def fileText (config : Config) : String :=
  config.toJson.pretty

end Config

end AgentBus
