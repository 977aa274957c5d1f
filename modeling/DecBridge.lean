import DecBridge.Bundle.Locator
import DecBridge.Bundle.Root
import DecBridge.CommandLine.Grammar
import DecBridge.CommandLine.Invocation
import DecBridge.CommandLine.Mistake
import DecBridge.CommandLine.Reading
import DecBridge.CommandLine.Split
import DecBridge.Config.Basic
import DecBridge.Config.Discovery
import DecBridge.Config.Error
import DecBridge.Config.File
import DecBridge.Config.Flags
import DecBridge.Config.Layer
import DecBridge.Config.Library
import DecBridge.Config.Load
import DecBridge.Config.Value
import DecBridge.Config.Variables
import DecBridge.Decimal.Fraction
import DecBridge.Decimal.Shortest
import DecBridge.Decimal.Whole
import DecBridge.Dispatch
import DecBridge.Dispatch.Action
import DecBridge.Dispatch.Books
import DecBridge.Dispatch.Calls
import DecBridge.Dispatch.Configured
import DecBridge.Dispatch.Reentry
import DecBridge.Engine
import DecBridge.Files.Path
import DecBridge.Files.Tree
import DecBridge.Host.Canned
import DecBridge.Host.Error
import DecBridge.Host.Reaction
import DecBridge.Link.Course
import DecBridge.Link.History
import DecBridge.Log.Event
import DecBridge.Log.Filter
import DecBridge.Log.Format
import DecBridge.Log.Record
import DecBridge.Loop
import DecBridge.Loop.Course
import DecBridge.Main
import DecBridge.Output.Fault
import DecBridge.Output.Sink
import DecBridge.Panic
import DecBridge.Pipe
import DecBridge.Pipe.Child
import DecBridge.Pipe.Launch
import DecBridge.Pipe.Recorded
import DecBridge.Program
import DecBridge.Program.Started
import DecBridge.Script.Array
import DecBridge.Script.Ast
import DecBridge.Script.Convert
import DecBridge.Script.Evaluate
import DecBridge.Script.Function
import DecBridge.Script.Grammar
import DecBridge.Script.Interpreter
import DecBridge.Script.Json
import DecBridge.Script.Key
import DecBridge.Script.Machine
import DecBridge.Script.Native
import DecBridge.Script.Number
import DecBridge.Script.Property
import DecBridge.Script.Reach
import DecBridge.Script.Reader
import DecBridge.Script.Run
import DecBridge.Script.Token
import DecBridge.Script.Units
import DecBridge.Script.Value
import DecBridge.Session
import DecBridge.Session.Callback
import DecBridge.Session.Course
import DecBridge.Settings
import DecBridge.Settings.Command
import DecBridge.Settings.Overlay
import DecBridge.Text.Blank
import DecBridge.Text.Letter
import DecBridge.Text.Lines
import DecBridge.Text.Name
import DecBridge.Text.Quoted
import DecBridge.Text.Shown
import DecBridge.Text.Similar
import DecBridge.Text.Utf8
import DecBridge.Text.Words
import DecBridge.Toml.Date
import DecBridge.Toml.Document
import DecBridge.Toml.Lexeme
import DecBridge.Toml.Node
import DecBridge.Toml.Outline
import DecBridge.Toml.Position
import DecBridge.Toml.Quoted
import DecBridge.Toml.Scalar
import DecBridge.Trap
import DecBridge.Workbench
import DecBridge.World
import DecBridge.World.Watched
import DecBridge.Proofs.Bundle.Confinement
import DecBridge.Proofs.Bundle.Flat
import DecBridge.Proofs.CommandLine.Groups
import DecBridge.Proofs.Config.Precedence
import DecBridge.Proofs.Dispatch.Arguments
import DecBridge.Proofs.Dispatch.Books
import DecBridge.Proofs.Dispatch.Calls
import DecBridge.Proofs.Dispatch.Isolation
import DecBridge.Proofs.Dispatch.Seen
import DecBridge.Proofs.Files.Walk
import DecBridge.Proofs.Link.Ledger
import DecBridge.Proofs.Link.Ownership
import DecBridge.Proofs.Loop.Accounts
import DecBridge.Proofs.Loop.Calm
import DecBridge.Proofs.Loop.Course
import DecBridge.Proofs.Loop.Detached
import DecBridge.Proofs.Loop.Lines
import DecBridge.Proofs.Loop.Owners
import DecBridge.Proofs.Loop.Process
import DecBridge.Proofs.Loop.Transcript
import DecBridge.Proofs.Pipe.Segments
import DecBridge.Proofs.Pipe.Synchrony
import DecBridge.Proofs.Pipe.Transcript
import DecBridge.Proofs.Script.Units
import DecBridge.Proofs.Session.Attachment
import DecBridge.Proofs.Session.Busy
import DecBridge.Proofs.Session.Callbacks
import DecBridge.Proofs.Session.Coupled
import DecBridge.Proofs.Session.Course
import DecBridge.Proofs.Session.Evaluations
import DecBridge.Proofs.Session.Faults
import DecBridge.Proofs.Session.Listed
import DecBridge.Proofs.Session.Loaders
import DecBridge.Proofs.Session.Panics
import DecBridge.Proofs.Session.Scripted
import DecBridge.Proofs.Session.Stages
import DecBridge.Proofs.Session.Staging
import DecBridge.Proofs.Settings.Command
import DecBridge.Proofs.Settings.Grammar
import DecBridge.Proofs.Settings.Linewise
import DecBridge.Proofs.Settings.Restoring
import DecBridge.Proofs.Settings.Transparency
import DecBridge.Proofs.Text.Blank
import DecBridge.Proofs.Text.Lines
import DecBridge.Proofs.Text.Utf8
import DecBridge.Proofs.Text.Words
import DecBridge.Proofs.Trap.Agreement
import DecBridge.Proofs.Trap.Reports
import DecBridge.Proofs.Trap.Requests
import DecBridge.Proofs.Workbench.Calls
import DecBridge.Proofs.World.Attached
import DecBridge.Proofs.World.Carried
import DecBridge.Proofs.World.Coupled
