import AgentBus.Files.Path

/-!
# Files

`Files` is what the program needs to be able to do with files and directories, whoever does it.
From these few abilities are built:

* `Files.makeDirs` makes a directory and those above it that are missing;
* `Files.openFile` makes a file, with its directory if need be.

What was made before something fails stays.
-/

namespace AgentBus

/-- Why something cannot be done with a file or a directory. -/
inductive FileError where
  | notFound
  | taken
  | notDirectory
  | isDirectory
  | nameTooLong
  | nulInPath
  /-- Anything else, in words. -/
  | other (words : String)
  deriving DecidableEq

/-- The wording of each error. -/
def FileError.message : FileError → String
  | .notFound => "No such file or directory (os error 2)"
  | .taken => "File exists (os error 17)"
  | .notDirectory => "Not a directory (os error 20)"
  | .isDirectory => "Is a directory (os error 21)"
  | .nameTooLong => "File name too long (os error 36)"
  | .nulInPath => "file name contained an unexpected NUL byte"
  | .other words => words

/-! ## Limits -/

/-- No name has more bytes. -/
def maxNameBytes : Nat := 255

/-- No path has more bytes. -/
def maxPathBytes : Nat := 4095

/-- What is wrong with a path whatever there is. -/
def Path.fault? (path : Path) : Option FileError :=
  if path.pieces.any (·.contains '\x00') then some .nulInPath
  else if path.pieces = [""] then some .notFound
  else if maxPathBytes < path.text.utf8ByteSize then some .nameTooLong
  else none

/-! ## Access -/

/-- Access to files and directories by their paths. -/
structure Files (m : Type → Type) where
  /-- The text of a file, none if there is nothing. -/
  read : Path → m (Except FileError (Option String))
  /-- Whether a path leads to a directory. -/
  isDirectory : Path → m Bool
  /-- Makes a directory where there is nothing, in a directory that is there. -/
  makeDir : Path → m (Except FileError Unit)
  /-- Writes a text into a file, which is made if it is missing. -/
  write : Path → String → m (Except FileError Unit)
  /-- Makes an empty file if there is nothing; a file that is there stays as it is. -/
  touch : Path → m (Except FileError Unit)

namespace Files

variable {m : Type → Type} [Monad m]

/-- Sees to it that a directory is there, in a directory that is there. -/
def ensureDir (files : Files m) (path : Path) : m (Except FileError Unit) := do
  match ← files.makeDir path with
  | .error .taken =>
    if ← files.isDirectory path then return .ok () else return .error .taken
  | result => return result

/-- Sees to it that the first of some directories is there, each of which is in the next one. The
others are looked at only as far as they are missing. -/
def ensureNested (files : Files m) : List Path → m (Except FileError Unit)
  | [] => return .ok ()
  | path :: above => do
    match ← files.ensureDir path with
    | .error .notFound =>
      match ← files.ensureNested above with
      | .error error => return .error error
      | .ok () => files.ensureDir path
    | result => return result

/-- Makes a directory and the missing ones above it. A path is tried as it is written, dots at its
end included, and only those above it without such dots. -/
def makeDirs (files : Files m) (path : Path) : m (Except FileError Unit) :=
  match path.stages with
  | [] => return .ok ()
  | _ :: above => files.ensureNested (path :: above)

/-- Makes a file or finds it. If that fails, its directory is made first. -/
def openFile (files : Files m) (path : Path) : m (Except FileError Unit) := do
  match ← files.touch path with
  | .ok () => return .ok ()
  | .error _ =>
    match ← files.ensureNested path.stages.tail with
    | .error error => return .error error
    | .ok () => files.touch path

end Files

end AgentBus
