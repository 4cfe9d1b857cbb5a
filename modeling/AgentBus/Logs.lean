/-!
# Log files

Old log files are removed when the agent starts. A file is a log file by its name, and is old once
its age exceeds the retention time. `cleanUp` goes through the entries of a directory and says which
of them are left.
-/

namespace AgentBus.Logs

/-- What the names of log files begin with. -/
def stem : String := "agh.log"

def secondsPerDay : Nat := 24 * 3600

/-- Seconds are counted up to this many. -/
def maxSeconds : Nat := UInt64.size - 1

def nanosPerSecond : Nat := 1000000000

/-- The name of an entry of a directory. Not every name is a text. -/
inductive EntryName where
  | text (name : String)
  | bytes (name : List UInt8)
  deriving DecidableEq

/-- An entry of a directory, as it is found when its turn comes. -/
structure Entry where
  name : EntryName
  /-- Whether its path leads to a regular file. -/
  isFile : Bool := true
  /-- The time since its last change in nanoseconds, if that is known and not in the future. -/
  age : Option Nat
  deriving DecidableEq

/-- The name of the log file of a date. -/
def fileName (date : String) : String := stem ++ "." ++ date

/-- Whether a name is taken for that of a log file. -/
def isLogName : EntryName → Bool
  | .text name => stem.toList.isPrefixOf name.toList
  | .bytes _ => false

/-- The retention time in seconds. -/
def retention (days : UInt64) : Nat :=
  min (days.toNat * secondsPerDay) maxSeconds

/-- Whether an entry is a log file that is older than so many days. -/
def isExpired (days : UInt64) (entry : Entry) : Bool :=
  entry.isFile && isLogName entry.name &&
    entry.age.any fun age => retention days * nanosPerSecond < age

/-- How many entries were removed, and which are left. -/
structure Cleanup where
  removed : Nat := 0
  left : List Entry
  deriving DecidableEq

/-- Whether an entry goes once its turn comes. -/
def goes (days : UInt64) (canRemove : Entry → Bool) (entry : Entry) : Bool :=
  isExpired days entry && canRemove entry

/-- The turn of an entry: an expired log file is removed by its name. If that fails, the entry stays
and is not counted. -/
def Cleanup.visit (days : UInt64) (canRemove : Entry → Bool) (cleanup : Cleanup) (entry : Entry) :
    Cleanup :=
  if goes days canRemove entry then
    { removed := cleanup.removed + 1
      left := cleanup.left.filter fun other => other.name ≠ entry.name }
  else cleanup

/-- Removes the expired log files of a directory, apart from those that cannot be removed. -/
def cleanUp (days : UInt64) (canRemove : Entry → Bool) (entries : List Entry) : Cleanup :=
  entries.foldl (Cleanup.visit days canRemove) { left := entries }

end AgentBus.Logs
