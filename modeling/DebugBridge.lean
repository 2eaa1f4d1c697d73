import DebugBridge.Bytes
import DebugBridge.Client
import DebugBridge.CommandLine.Command
import DebugBridge.CommandLine.Parse
import DebugBridge.CommandLine.Rules
import DebugBridge.CommandLine.Run
import DebugBridge.CommandLine.Scan
import DebugBridge.Config
import DebugBridge.Device.Basic
import DebugBridge.Device.Features
import DebugBridge.Device.Json
import DebugBridge.Device.Line
import DebugBridge.Device.Set
import DebugBridge.Device.State
import DebugBridge.Endpoint
import DebugBridge.Failure
import DebugBridge.Files.Path
import DebugBridge.Files.Tree
import DebugBridge.Forward.Entry
import DebugBridge.Forward.Json
import DebugBridge.Forward.Spec
import DebugBridge.Frame
import DebugBridge.Host.Program
import DebugBridge.Host.Script.Arithmetic
import DebugBridge.Host.Script.Builtin
import DebugBridge.Host.Script.Condition
import DebugBridge.Host.Script.Expansion
import DebugBridge.Host.Script.Pattern
import DebugBridge.Host.Script.Redirect
import DebugBridge.Host.Script.Run
import DebugBridge.Host.Script.Session
import DebugBridge.Host.Script.Syntax
import DebugBridge.Host.Script.Token
import DebugBridge.Host.Script.Tool
import DebugBridge.Host.Server
import DebugBridge.Inflow
import DebugBridge.Json.Printer
import DebugBridge.Json.Reader
import DebugBridge.Json.Token
import DebugBridge.Json.Value
import DebugBridge.Link
import DebugBridge.Main
import DebugBridge.Network
import DebugBridge.Output.Calendar
import DebugBridge.Output.Color
import DebugBridge.Output.Formatter
import DebugBridge.Output.Listed
import DebugBridge.Output.Size
import DebugBridge.Output.Table
import DebugBridge.Output.TimedEvent
import DebugBridge.Proofs.Alike
import DebugBridge.Proofs.Device.Set
import DebugBridge.Proofs.Frame
import DebugBridge.Proofs.Inflow
import DebugBridge.Proofs.Lines
import DebugBridge.Proofs.Link
import DebugBridge.Proofs.Messages
import DebugBridge.Proofs.Reply
import DebugBridge.Proofs.Shell.FailureScan
import DebugBridge.Proofs.Shell.Failures
import DebugBridge.Proofs.Shell.NewlineStream
import DebugBridge.Proofs.Sync.Alike
import DebugBridge.Proofs.Sync.Answer
import DebugBridge.Proofs.Sync.Calls
import DebugBridge.Proofs.Sync.Grammar
import DebugBridge.Proofs.Sync.InStep
import DebugBridge.Proofs.Sync.Life
import DebugBridge.Proofs.Sync.PullInStep
import DebugBridge.Proofs.Sync.Query
import DebugBridge.Proofs.Sync.Replies
import DebugBridge.Proofs.Sync.RoundTrip
import DebugBridge.Proofs.Sync.Session
import DebugBridge.Proofs.Sync.Transfer
import DebugBridge.Proofs.Tracker.Restarts
import DebugBridge.Proofs.Tracker.Run
import DebugBridge.Proofs.Tracker.Subscription
import DebugBridge.Proofs.Utf8
import DebugBridge.Reply
import DebugBridge.Request
import DebugBridge.Run
import DebugBridge.Shell.FailureScan
import DebugBridge.Shell.Failures
import DebugBridge.Shell.NewlineStream
import DebugBridge.Shell.Receiver
import DebugBridge.Shell.Run
import DebugBridge.Sync.Command
import DebugBridge.Sync.Directory
import DebugBridge.Sync.FileStat
import DebugBridge.Sync.Query
import DebugBridge.Sync.Session
import DebugBridge.Sync.Transfer
import DebugBridge.Text.Blank
import DebugBridge.Text.Hidden
import DebugBridge.Text.Lowercase
import DebugBridge.Text.Number
import DebugBridge.Text.Quoted
import DebugBridge.Text.Utf8
import DebugBridge.Text.Width
import DebugBridge.Text.Width.Ranges
import DebugBridge.Toml.Draft
import DebugBridge.Toml.Quoted
import DebugBridge.Toml.Reader
import DebugBridge.Toml.Scalar
import DebugBridge.Toml.Time
import DebugBridge.Toml.Value
import DebugBridge.Tracker.Basic
import DebugBridge.Tracker.Watch
import DebugBridge.Proofs.Scope
import DebugBridge.Proofs.Shell.Batches
import DebugBridge.Proofs.Files.Path
import DebugBridge.Proofs.Files.Tree
import DebugBridge.Proofs.Files.Walk
import DebugBridge.Proofs.Sync.Directory
import DebugBridge.Proofs.Sync.Levels
import DebugBridge.Proofs.Shell.Delivery
import DebugBridge.Proofs.Shell.FailedReads
import DebugBridge.Proofs.Tracker.Moments
import DebugBridge.Proofs.Device.Rows
import DebugBridge.Proofs.Tracker.Mirror
import DebugBridge.Proofs.Tracker.Pace
import DebugBridge.Proofs.Tracker.States
import DebugBridge.Proofs.Tracker.Automaton
import DebugBridge.Proofs.Sync.Refused
import DebugBridge.Proofs.Sync.Served
import DebugBridge.Proofs.Sync.Depth
import DebugBridge.Proofs.Files.Listing
import DebugBridge.Proofs.Sync.PushDirectory
import DebugBridge.Proofs.Sync.PullDirectory
import DebugBridge.Proofs.Words
import DebugBridge.Proofs.Forward.Spec
import DebugBridge.Proofs.Forward.Listing
import DebugBridge.Proofs.Request
import DebugBridge.Proofs.Device.Line
import DebugBridge.Proofs.Shell.LineBuffer
import DebugBridge.Proofs.Choice
import DebugBridge.Proofs.Json.Layout
import DebugBridge.Proofs.Json.Scalar
import DebugBridge.Proofs.Json.RoundTrip
import DebugBridge.Proofs.Json.Records
import DebugBridge.Proofs.Json.Printable
import DebugBridge.Proofs.Json.Colored
import DebugBridge.Proofs.Sync.Progress
import DebugBridge.Proofs.Sync.DirectoryProgress
import DebugBridge.Proofs.Endpoint
import DebugBridge.Proofs.Output.Size
