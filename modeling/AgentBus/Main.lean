import AgentBus.CommandLine.Response
import Std.Time.DateTime.Timestamp

/-!
# The program

Reads the arguments, the environment and the configuration file, and does what was asked for. This
module only talks to the outside; what is to be done and printed is decided elsewhere.
-/

namespace AgentBus.CommandLine

/-! ## Surroundings -/

/-- The variables of the environment. -/
def readVariables : IO (List (String × String)) := do
  try
    let bytes ← IO.FS.readBinFile "/proc/self/environ"
    return (Text.pieces 0 bytes.toList).filterMap fun piece =>
      (String.fromUTF8? ⟨piece.toArray⟩).map fun entry =>
        let cs := entry.toList
        (String.ofList (cs.takeWhile (· ≠ '=')), String.ofList ((cs.dropWhile (· ≠ '=')).drop 1))
  catch _ => return []

/-- What went wrong. -/
def fileError : IO.Error → FileError
  | .noFileOrDirectory .. => .notFound
  | .alreadyExists .. => .taken
  | .inappropriateType _ code details =>
    if code = 20 then .notDirectory
    else if code = 21 then .isDirectory
    else .other details
  | .invalidArgument _ code details =>
    if code = 36 then .nameTooLong else .other details
  | error => .other (toString error)

/-- Does something with a path that the machine takes, or says what went wrong. -/
def attempt {α : Type} (path : Path) (action : String → IO α) : IO (Except FileError α) := do
  match path.fault? with
  | some error => return .error error
  | none =>
    match ← (action path.text).toBaseIO with
    | .ok result => return .ok result
    | .error error => return .error (fileError error)

/-- The text of a file, none if there is nothing. -/
def readText (path : Path) : IO (Except FileError (Option String)) := do
  if path.fault?.isSome then return .ok none
  if !(← ((← IO.currentDir) / path.text).pathExists) then return .ok none
  match ← attempt path fun name => IO.FS.readBinFile name with
  | .error error => return .error error
  | .ok bytes =>
    match String.fromUTF8? bytes with
    | some text => return .ok (some text)
    | none => return .error (.other "stream did not contain valid UTF-8")

/-- Whether a path leads to a directory. -/
def leadsToDirectory (path : Path) : IO Bool := do
  if path.fault?.isSome then return false
  ((← IO.currentDir) / path.text).isDir

/-- Access to the files of the machine. -/
def machineFiles : Files IO where
  read := readText
  isDirectory := leadsToDirectory
  makeDir path := attempt path fun name => IO.FS.createDir name
  write path content := attempt path fun name => IO.FS.writeFile name content
  touch path := attempt path fun name => do
    let _ ← IO.FS.Handle.mk name .append

/-- The nanoseconds since the beginning of 1970. -/
def readClock : IO Int := do
  return (← Std.Time.Timestamp.now).toNanosecondsSinceUnixEpoch.toInt

/-! ## Log files -/

/-- An entry of a directory, as the removal of old log files sees it. The age is that of the entry
itself, also if it is a link. -/
def logEntry (now : Int) (file : IO.FS.DirEntry) : IO Logs.Entry := do
  let target ← file.path.metadata.toBaseIO
  let own ← file.path.symlinkMetadata.toBaseIO
  let age := own.toOption.bind fun data =>
    let changed := data.modified.sec * Logs.nanosPerSecond + data.modified.nsec.toNat
    if changed ≤ now then some (now - changed).toNat else none
  return {
    name := .text file.fileName
    isFile := target.toOption.any fun data => data.type == .file
    age }

/-- Removes a file, or tells why it stays. -/
def removeOrTell (file : IO.FS.DirEntry) : IO Unit := do
  try IO.FS.removeFile file.path
  catch error => IO.eprintln ("Failed to remove old log file: " ++ toString error)

/-- Removes the old log files of a directory. -/
def removeOldLogs (logging : LoggingConfig) : IO Unit := do
  let dir := (← IO.currentDir) / logging.dir
  if ← dir.pathExists then
    let now ← readClock
    try
      for file in ← dir.readDir do
        if Logs.isExpired logging.retentionDays (← logEntry now file) then
          removeOrTell file
    catch error => IO.eprintln ("Failed to clean up old logs: " ++ toString error)

/-! ## Running the agent -/

/-- More rounds than the agent needs between two inputs. -/
def roundLimit : Nat := 1000000

/-- What the running program keeps. -/
structure Running where
  config : Config
  agent : Agent String Unit
  /-- The time of the start. -/
  started : Int
  /-- The number of the last heartbeat. -/
  ticks : Nat := 0
  /-- The line that is being read; none once the input has ended. -/
  reader : Option (Task (Except IO.Error String))

/-- Starts to read a line of the input. -/
def startReading : IO (Task (Except IO.Error String)) := do
  let input ← IO.getStdin
  IO.asTask input.getLine

/-- Hands the line over that was read, if there is one. -/
def takeLine (running : Running) : IO Running := do
  let some reader := running.reader | return running
  if !(← IO.hasFinished reader) then return running
  match reader.get with
  | .ok line =>
    if line.isEmpty then return { running with reader := none }
    let text := (Console.lines line.toUTF8.toList).headD ""
    return { running with
      agent := feedLine running.config text running.agent
      reader := some (← startReading) }
  | .error _ => return { running with reader := none }

/-- Lets the heartbeat tick if its time has come. -/
def takeTick (running : Running) : IO Running := do
  let now ← readClock
  let seconds := ((now - running.started) / Logs.nanosPerSecond).toNat
  let agent := atUptime seconds running.agent
  let due := seconds / Heartbeat.period running.config.heartbeat.intervalSeconds
  match UtcTime.ofUnix? (now / Logs.nanosPerSecond) 0 with
  | some time =>
    if running.ticks < due then
      return { running with
        agent := feedTick (UInt64.ofNat (running.ticks + 1)) time agent
        ticks := due }
    else return { running with agent }
  | none => return { running with agent }

/-- Runs the agent to its end. -/
partial def keepRunning (running : Running) : IO Unit := do
  let (printed, agent) := advance roundLimit running.agent
  let output ← IO.getStdout
  output.putStr printed
  output.flush
  if !isOver agent then
    IO.sleep 5
    keepRunning (← takeTick (← takeLine { running with agent }))

/-- The date of today. -/
def today : IO String := do
  let now ← readClock
  return ((UtcTime.ofUnix? (now / Logs.nanosPerSecond) 0).map UtcTime.dateText).getD ""

/-- Runs the agent of a configuration, if it can have its log file. -/
def runAgent (colours : Bool) (dir : Path) (config : Config) : IO UInt32 := do
  match ← machineFiles.openFile (logPath config.logging (← today)) with
  | .error error =>
    IO.eprintln ("No log file: " ++ error.message)
    return breakdownCode
  | .ok () =>
    removeOldLogs config.logging
    IO.eprint ((openingNotice dir ++ runningNotice).text colours)
    let clock := (← IO.monoMsNow) / 1000
    keepRunning
      { config, agent := (sessionAgent config clock []).launch printing
        started := ← readClock, reader := some (← startReading) }
    IO.eprint (closingNotice.text colours)
    return 0

/-! ## Requests -/

/-- Prints what is seen of a run and returns its exit code. -/
def report (response : Response) : IO UInt32 := do
  IO.print response.output
  IO.eprint response.errors
  return response.code

end AgentBus.CommandLine

open AgentBus.CommandLine in
def main (arguments : List String) : IO UInt32 := do
  let environment ← readVariables
  match Invocation.ofArguments arguments with
  | .error stop => report ((Outcome.ofStop stop).response (wantsUsageColours environment))
  | .ok invocation =>
    let home := (← IO.getEnv "HOME").getD ""
    let colours := wantsColours environment
    match ← perform machineFiles invocation home environment with
    | .finish outcome => report (outcome.response colours)
    | .session dir config => runAgent colours dir config
