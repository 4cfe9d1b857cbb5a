import AgentBus.Bus.NameTable
import AgentBus.Files.Basic
import AgentBus.Logs

/-!
# Disks

A disk is a table of nodes, and a node is known by its place in the table. A directory holds the
nodes of its entries by their names, and knows the directory that it is in. The first node is the
root. A path is walked piece by piece, from the root or from a working directory, and each step
needs a directory to start from.

* `Disk.follow` is the node that a path leads to;
* `Disk.makeDir`, `Disk.write` and `Disk.touch` add to the directory that holds what a path names;
* `Disk.cleanLogs` removes the expired log files of a directory;
* `Disk.files` is the access to a disk by paths.
-/

namespace AgentBus

/-- The place of a node in the table of a disk. -/
abbrev NodeId := Nat

/-- What can be on a disk. -/
inductive Node where
  | directory (parent : NodeId) (entries : NameTable NodeId)
  /-- A file, and the time since its last change in nanoseconds. -/
  | file (content : String) (age : Nat)
  deriving DecidableEq

/-- What is stored. A disk holds nothing but its root at first. -/
structure Disk where
  nodes : Array Node := #[.directory 0 []]
  deriving DecidableEq

namespace Disk

/-- The root is its own parent. -/
def root : NodeId := 0

def node? (disk : Disk) (id : NodeId) : Option Node :=
  disk.nodes[id]?

/-! ## Walking -/

/-- Goes by one piece of a path from a node that has to be a directory. -/
def step (disk : Disk) (id : NodeId) (piece : String) : Except FileError NodeId :=
  match disk.node? id with
  | none => .error .notFound
  | some (.file ..) => .error .notDirectory
  | some (.directory parent entries) =>
    if piece = "" ∨ piece = "." then .ok id
    else if piece = ".." then .ok parent
    else if maxNameBytes < piece.utf8ByteSize then .error .nameTooLong
    else
      match entries.find? piece with
      | none => .error .notFound
      | some id => .ok id

/-- Goes by the pieces of a path, one after the other. Nothing is looked for under a path that no
disk takes. -/
def walk (disk : Disk) (workdir : NodeId) (path : Path) (pieces : List String) :
    Except FileError NodeId :=
  match path.fault? with
  | some error => .error error
  | none => pieces.foldlM disk.step (if path.isAbsolute then root else workdir)

/-- The node that a path leads to. -/
def follow (disk : Disk) (workdir : NodeId) (path : Path) : Except FileError NodeId :=
  disk.walk workdir path path.pieces

/-- What a path leads to, if there is anything. -/
def at? (disk : Disk) (workdir : NodeId) (path : Path) : Option Node :=
  (disk.follow workdir path).toOption.bind disk.node?

/-! ## Changes -/

/-- Adds a node to a directory. -/
def add (disk : Disk) (dir : NodeId) (name : String) (node : Node) : Disk :=
  match disk.node? dir with
  | some (.directory parent entries) =>
    let changed := Node.directory parent (entries.insert name disk.nodes.size)
    { nodes := (disk.nodes.setIfInBounds dir changed).push node }
  | _ => disk

/-- Makes a directory. -/
def makeDir (disk : Disk) (workdir : NodeId) (path : Path) : Except FileError Disk :=
  let (before, name) := path.parting
  match disk.walk workdir path before with
  | .error error => .error error
  | .ok dir =>
    match disk.step dir name with
    | .ok _ => .error .taken
    | .error .notFound => .ok (disk.add dir name (.directory dir []))
    | .error error => .error error

/-- Stores a text of a certain age in a file, which is made if it is missing. -/
def write (disk : Disk) (workdir : NodeId) (path : Path) (content : String) (age : Nat) :
    Except FileError Disk :=
  let (before, name) := path.parting
  match disk.walk workdir path before with
  | .error error => .error error
  | .ok dir =>
    match disk.step dir name with
    | .error .notFound => .ok (disk.add dir name (.file content age))
    | .error error => .error error
    | .ok id =>
      match disk.node? id with
      | some (.file ..) => .ok { nodes := disk.nodes.setIfInBounds id (.file content age) }
      | _ => .error .isDirectory

/-- Makes an empty file, or finds that the file is there. -/
def touch (disk : Disk) (workdir : NodeId) (path : Path) : Except FileError Disk :=
  match disk.at? workdir path with
  | some (.file ..) => .ok disk
  | _ => disk.write workdir path "" 0

/-! ## Log files -/

/-- An entry of a directory, as the removal of old log files sees it. -/
def logEntry (disk : Disk) (entry : String × NodeId) : Logs.Entry :=
  match disk.node? entry.2 with
  | some (.file _ age) => { name := .text entry.1, age := some age }
  | _ => { name := .text entry.1, isFile := false, age := none }

/-- Removes the expired log files of a directory. -/
def cleanLogs (disk : Disk) (dir : NodeId) (days : UInt64) : Disk :=
  match disk.node? dir with
  | some (.directory parent entries) =>
    let left := (Logs.cleanUp days (fun _ => true) (entries.map disk.logEntry)).left
    let stays := entries.filter fun entry => left.contains (disk.logEntry entry)
    { nodes := disk.nodes.setIfInBounds dir (.directory parent stays) }
  | _ => disk

/-! ## Access -/

/-- The text of a file on a disk, none if there is nothing. -/
def read (disk : Disk) (workdir : NodeId) (path : Path) : Except FileError (Option String) :=
  match disk.at? workdir path with
  | none => .ok none
  | some (.directory ..) => .error .isDirectory
  | some (.file content _) => .ok (some content)

def isDirectory (disk : Disk) (workdir : NodeId) (path : Path) : Bool :=
  match disk.at? workdir path with
  | some (.directory ..) => true
  | _ => false

/-- Changes the disk, or leaves it as it is and tells why. -/
def attempt (change : Disk → Except FileError Disk) : StateM Disk (Except FileError Unit) := do
  match change (← get) with
  | .error error => return .error error
  | .ok disk =>
    set disk
    return .ok ()

/-- Access to a disk, by paths from a working directory. -/
def files (workdir : NodeId) : Files (StateM Disk) where
  read path := return (← get).read workdir path
  isDirectory path := return (← get).isDirectory workdir path
  makeDir path := attempt fun disk => disk.makeDir workdir path
  write path content := attempt fun disk => disk.write workdir path content 0
  touch path := attempt fun disk => disk.touch workdir path

end Disk

end AgentBus
