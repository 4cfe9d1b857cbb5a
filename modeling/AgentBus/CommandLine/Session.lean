import AgentBus.Agent.Schedule
import AgentBus.Channel.Console
import AgentBus.CommandLine.Styled
import AgentBus.Files.Path
import AgentBus.Worker.Heartbeat

/-!
# Sessions

The agent that the program runs: the core, the workers of the enabled channels, and the heartbeat
if that is enabled. What it writes to the outside are the texts that the console prints. Notices
about the session itself are kept apart from these.
-/

namespace AgentBus.CommandLine

/-! ## Notices -/

/-- What the user is told before a session. -/
def openingNotice (configDir : Path) : Styled :=
  unlines [marked [.cyan, .bold] "Starting AGH...", "Config directory: " ++ configDir.text]

/-- What the user is told when a session is about to run. -/
def runningNotice : Styled :=
  unlines [marked [.green] "AGH is running. Press Ctrl+C to stop."]

/-- What the user is told after a session. -/
def closingNotice : Styled :=
  unlines [marked [.green] "AGH stopped."]

/-! ## The agent -/

/-- The console prints to the output of the session. -/
def printing : Behaviour String Unit :=
  Console.writer fun _ text => BusProgram.emit text

/-- The workers of the enabled channels, whose console reads the given lines. -/
def channels (config : Config) (lines : List String) : List (Worker String Unit) :=
  Console.channelWorkers config () lines

/-- The worker of the heartbeat, if that is enabled, by the clock at its start. -/
def heartbeatWorkers (config : HeartbeatConfig) (clock : Nat) : List (Worker String Unit) :=
  if config.enabled then [Heartbeat.worker config.intervalSeconds clock []] else []

/-- The agent of a session that begins at a time of the clock, and whose console reads the given
lines. -/
def sessionAgent (config : Config) (clock : Nat) (lines : List String) : Agent String Unit :=
  (channels config lines ++ heartbeatWorkers config.heartbeat clock).foldl .register
    (.create config)

/-! ## Running -/

/-- Hands one more line of the input to the console. Blank lines are left out. -/
def feedLine (config : Config) (line : String) (agent : Agent String Unit) :
    Agent String Unit :=
  if Text.isBlankLine line then agent
  else
    let job (post : Post) : BusProgram String Unit :=
      Console.feed (Console.channel config.channels.console post config.protocol) line
    { agent with registry := agent.registry.addJob Console.workerName job }

/-- Lets the heartbeat tick. -/
def feedTick (tick : UInt64) (time : UtcTime) (agent : Agent String Unit) :
    Agent String Unit :=
  let job (post : Post) : BusProgram String Unit := Heartbeat.tick post tick time
  { agent with registry := agent.registry.addJob Heartbeat.name job }

/-- Sets the time since the start of the session, in whole seconds. -/
def atUptime (seconds : Nat) (agent : Agent String Unit) : Agent String Unit :=
  { agent with
    network :=
      { agent.network with
        context := { agent.network.context with uptimeSeconds := seconds } } }

/-- Runs the agent until everybody waits or all is over. Returns what was printed meanwhile, and
the agent without it. -/
def advance (fuel : Nat) (agent : Agent String Unit) : String × Agent String Unit :=
  let ran := agent.run printing fuel
  (String.join ran.network.output.toList,
    { ran with network := { ran.network with output := {} } })

def isOver (agent : Agent String Unit) : Bool :=
  match agent.phase with
  | .finished => true
  | _ => false

/-- Runs a session as far as it goes, and returns what was printed. -/
def session (config : Config) (clock : Nat) (lines : List String) (fuel : Nat) : String :=
  let agent := (sessionAgent config clock lines).launch printing
  String.join (agent.run printing fuel).network.output.toList

end AgentBus.CommandLine
