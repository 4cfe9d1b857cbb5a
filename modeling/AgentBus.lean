import AgentBus.Agent.Basic
import AgentBus.Agent.Schedule
import AgentBus.Bus.Context
import AgentBus.Bus.Directory
import AgentBus.Bus.Message
import AgentBus.Bus.NameTable
import AgentBus.Bus.Network
import AgentBus.Bus.Queue
import AgentBus.Calendar
import AgentBus.Channel.Basic
import AgentBus.Channel.Console
import AgentBus.CommandLine.Arguments
import AgentBus.CommandLine.Outcome
import AgentBus.CommandLine.Response
import AgentBus.CommandLine.Session
import AgentBus.CommandLine.Styled
import AgentBus.CommandLine.Usage
import AgentBus.Config.Basic
import AgentBus.Config.Load
import AgentBus.Config.Tree
import AgentBus.Config.Validation
import AgentBus.Core.Handlers
import AgentBus.Core.Operation
import AgentBus.Files.Basic
import AgentBus.Files.Disk
import AgentBus.Files.Path
import AgentBus.Handler.Basic
import AgentBus.Handler.Chain
import AgentBus.Handler.Script
import AgentBus.Json.Basic
import AgentBus.Json.Decimal
import AgentBus.Json.Read
import AgentBus.Json.Write
import AgentBus.Logs
import AgentBus.Mailbox.Basic
import AgentBus.Mailbox.Loop
import AgentBus.Main
import AgentBus.Numeral.Binary64
import AgentBus.Numeral.Shortest
import AgentBus.Program
import AgentBus.Proofs.Settings.Grammar
import AgentBus.Proofs.Settings.Numbers
import AgentBus.Proofs.Settings.Reading
import AgentBus.Proofs.Settings.Strings
import AgentBus.Proofs.Settings.Tokens
import AgentBus.Protocol.Command
import AgentBus.Protocol.Frame
import AgentBus.Protocol.SourceTag
import AgentBus.Settings.Basic
import AgentBus.Settings.Read
import AgentBus.Settings.Scan
import AgentBus.Text.Basic
import AgentBus.Text.Visible
import AgentBus.Worker.Basic
import AgentBus.Worker.Heartbeat
import AgentBus.Worker.Registry
import AgentBus.Worker.Script
import AgentBus.Worker.Thread
import AgentBus.Proofs.Protocol.RoundTrip
import AgentBus.Proofs.Bus.Interleaving
import AgentBus.Proofs.Bus.Network
import AgentBus.Proofs.Bus.EndpointView
import AgentBus.Proofs.Bus.DispatchOrder
import AgentBus.Proofs.Core.Dispatch
import AgentBus.Proofs.Core.Answers
import AgentBus.Proofs.Program.Notes
import AgentBus.Proofs.Handler.Calls
import AgentBus.Proofs.Handler.FrozenPass
import AgentBus.Proofs.Handler.Lifecycle
import AgentBus.Proofs.Bus.Counters
import AgentBus.Proofs.Worker.Notes
import AgentBus.Proofs.Worker.States
import AgentBus.Proofs.Worker.Lifecycle
import AgentBus.Proofs.Json.RoundTrip
import AgentBus.Proofs.Config.RoundTrip
import AgentBus.Proofs.Bus.NameTable
import AgentBus.Proofs.Files.Disk
import AgentBus.Proofs.Config.Saving
import AgentBus.Proofs.Bus.Touch
import AgentBus.Proofs.Handler.Requests
import AgentBus.Proofs.Agent.Moves
import AgentBus.Proofs.Agent.Placed
import AgentBus.Proofs.Agent.Launch
import AgentBus.Proofs.Worker.Serving
import AgentBus.Proofs.Agent.Attended
import AgentBus.Proofs.Agent.Dismissal
import AgentBus.Proofs.Agent.Release
import AgentBus.Proofs.Agent.Shutdown
import AgentBus.Proofs.Bus.Roster
import AgentBus.Proofs.Core.Requests
import AgentBus.Proofs.Worker.Closing
import AgentBus.Proofs.Agent.Orderly
import AgentBus.Proofs.Agent.Notebooks
import AgentBus.Proofs.Agent.Cleanup
import AgentBus.Proofs.Core.Passes
import AgentBus.Proofs.Channel.Console
import AgentBus.Proofs.Agent.Conversation
import AgentBus.Proofs.Channel.Lines
import AgentBus.Proofs.Agent.Answered
import AgentBus.Proofs.Agent.ConsoleSession
import AgentBus.Proofs.Protocol.Unambiguous
import AgentBus.Proofs.Protocol.Rules
import AgentBus.Proofs.Settings.Spelling
import AgentBus.Proofs.Config.EnvironmentOrder
import AgentBus.Proofs.Json.Distinct
import AgentBus.Proofs.Json.Overlay
import AgentBus.Proofs.Text.ByteOrder
import AgentBus.Proofs.Config.Layers
import AgentBus.Proofs.Handler.FailedStart
import AgentBus.Proofs.Mailbox.Dispatching
import AgentBus.Proofs.Core.Pumping
import AgentBus.Proofs.Bus.Amid
import AgentBus.Proofs.Mailbox.Returns
import AgentBus.Proofs.Worker.Duty
import AgentBus.Proofs.Worker.RunLoop
import AgentBus.Proofs.Json.Compact
import AgentBus.Proofs.Bus.NameOrder
import AgentBus.Proofs.Core.Operations
import AgentBus.Proofs.Worker.FailedInit
import AgentBus.Proofs.Worker.Housing
import AgentBus.Proofs.Worker.Withdrawal
import AgentBus.Proofs.Protocol.TrailingBlanks
import AgentBus.Proofs.Bus.Arrivals
import AgentBus.Proofs.Bus.Bindings
import AgentBus.Proofs.Core.FanOut
import AgentBus.Proofs.Protocol.SourceTags
import AgentBus.Proofs.Channel.HandingOver
import AgentBus.Proofs.Core.Tracking
import AgentBus.Proofs.Core.Orphans
import AgentBus.Proofs.Settings.FaultPlaces
import AgentBus.Proofs.Settings.IntegerLiterals
import AgentBus.Proofs.Files.LogCleanup
