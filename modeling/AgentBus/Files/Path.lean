/-!
# Paths

A path is kept as the pieces between its slashes, so that its text can be told again exactly. What
the pieces lead to is for those to say who have the directories; here is what can be said without
them.

* `Path.stages` are the beginnings of a path that end where a piece counts: what the path leads to,
  and the directories that it goes through.
* `Path.parting` takes a path apart into its last name and the pieces before it.
-/

namespace AgentBus

/-- A path, by the pieces between its slashes. -/
structure Path where
  pieces : List String
  deriving DecidableEq

namespace Path

/-- The path that a text stands for. -/
def ofText (text : String) : Path := ⟨text.splitOn "/"⟩

/-- The text of a path. -/
def text (path : Path) : String := "/".intercalate path.pieces

/-- Whether a path begins at the root. -/
def isAbsolute (path : Path) : Bool :=
  match path.pieces with
  | "" :: _ :: _ => true
  | _ => false

/-- The path of a name in the directory of a path. A slash at the end of that is not doubled. -/
def join (dir : Path) (name : String) : Path :=
  if dir.pieces.getLast? = some "" then ⟨dir.pieces.dropLast ++ [name]⟩
  else ⟨dir.pieces ++ [name]⟩

/-! ## Stages -/

/-- Whether a piece counts behind others: empty pieces do not, and a dot only where a path
begins. -/
def counts (before : List String) (piece : String) : Bool :=
  piece ≠ "" && (piece ≠ "." || before = [])

/-- The stages of pieces that are listed backwards. -/
def stagesBack : List String → List (List String)
  | [] => []
  | piece :: before =>
    if counts before piece then (piece :: before) :: stagesBack before else stagesBack before

/-- The beginnings of a path that end where a piece counts, the longest first. -/
def stages (path : Path) : List Path :=
  (stagesBack path.pieces.reverse).map fun pieces => ⟨pieces.reverse⟩

/-! ## Partings -/

/-- The pieces before the last name of a path, and that name. The root is the dot behind itself. -/
def parting (path : Path) : List String × String :=
  match path.pieces.reverse.dropWhile (· = "") with
  | [] => ([], ".")
  | name :: before => (before.reverse, name)

end Path

end AgentBus
