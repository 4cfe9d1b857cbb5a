import AgentBus.CommandLine.Outcome
import AgentBus.CommandLine.Session
import AgentBus.Files.Disk

/-!
# Responses

A whole run of the program on a disk: `respond` takes the arguments and everything else that the
program looks at, and gives what is seen of the run and the disk afterwards.
-/

namespace AgentBus.CommandLine

/-- What surrounds a run of the program, apart from the disk. -/
structure Surroundings where
  workdir : NodeId
  home : String
  environment : List (String × String)
  /-- The date in the name of the log file. -/
  date : String
  /-- The clock by which heartbeats are waited for, in seconds. -/
  clock : Nat
  input : List UInt8

/-- What is seen of a run of the program. -/
structure Response where
  code : UInt32
  output : String := ""
  errors : String := ""
  deriving DecidableEq

/-- How an outcome is seen, with colours or without. -/
def Outcome.response (outcome : Outcome) (colours : Bool) : Response :=
  { code := outcome.code
    output := outcome.output.text colours
    errors := outcome.errors.text colours }

/-- The log file of a date. -/
def logPath (logging : LoggingConfig) (date : String) : Path :=
  (Path.ofText logging.dir).join (Logs.fileName date)

/-- The exit code of a run that breaks down. -/
def breakdownCode : UInt32 := 101

/-- Runs the program. A session breaks down if it cannot have its log file. -/
def respond (surroundings : Surroundings) (arguments : List String) (fuel : Nat) :
    StateM Disk Response := do
  let environment := surroundings.environment
  match Invocation.ofArguments arguments with
  | .error stop => return (Outcome.ofStop stop).response (wantsUsageColours environment)
  | .ok invocation =>
    let colours := wantsColours environment
    let files := Disk.files surroundings.workdir
    match ← perform files invocation surroundings.home environment with
    | .finish outcome => return outcome.response colours
    | .session dir config =>
      let logging := config.logging
      match ← files.openFile (logPath logging surroundings.date) with
      | .error _ => return { code := breakdownCode }
      | .ok () =>
        modify fun disk =>
          match disk.follow surroundings.workdir (.ofText logging.dir) with
          | .error _ => disk
          | .ok logDir => disk.cleanLogs logDir logging.retentionDays
        return {
          code := 0
          output := session config surroundings.clock (Console.lines surroundings.input) fuel
          errors := (openingNotice dir ++ runningNotice ++ closingNotice).text colours }

end AgentBus.CommandLine
