import TaskPipeline.Catalog
import TaskPipeline.Cli.Command
import TaskPipeline.Cli.Grammar
import TaskPipeline.Cli.Report
import TaskPipeline.Cli.Run
import TaskPipeline.Engine.Background
import TaskPipeline.Engine.Error
import TaskPipeline.Engine.Lifecycle
import TaskPipeline.Engine.Operation
import TaskPipeline.Engine.Policy
import TaskPipeline.Engine.Query
import TaskPipeline.Engine.Run
import TaskPipeline.Engine.Structure
import TaskPipeline.Engine.Transaction
import TaskPipeline.Graph.Adjacency
import TaskPipeline.Graph.Integrity
import TaskPipeline.Graph.Link
import TaskPipeline.Graph.Search
import TaskPipeline.Ident.Basic
import TaskPipeline.Ident.Fresh
import TaskPipeline.Ident.Resolve
import TaskPipeline.Json.Decode
import TaskPipeline.Json.Number
import TaskPipeline.Json.Printer
import TaskPipeline.Json.Reader
import TaskPipeline.Json.Token
import TaskPipeline.Json.Value
import TaskPipeline.Log.Level
import TaskPipeline.Log.Lines
import TaskPipeline.Main
import TaskPipeline.Number.Double
import TaskPipeline.Number.Shortest
import TaskPipeline.Order.Levels
import TaskPipeline.Order.Sort
import TaskPipeline.Proofs.Catalog
import TaskPipeline.Proofs.Engine.Chain
import TaskPipeline.Proofs.Engine.Edit
import TaskPipeline.Proofs.Engine.EitherStore
import TaskPipeline.Proofs.Engine.Failure
import TaskPipeline.Proofs.Engine.Fan
import TaskPipeline.Proofs.Engine.Frame
import TaskPipeline.Proofs.Engine.Interleaving
import TaskPipeline.Proofs.Engine.Label
import TaskPipeline.Proofs.Engine.Named
import TaskPipeline.Proofs.Engine.Placement
import TaskPipeline.Proofs.Engine.Race
import TaskPipeline.Proofs.Engine.Rejoin
import TaskPipeline.Proofs.Engine.Retry
import TaskPipeline.Proofs.Engine.Run
import TaskPipeline.Proofs.Engine.Split
import TaskPipeline.Proofs.Engine.Stale
import TaskPipeline.Proofs.Engine.Structure
import TaskPipeline.Proofs.Engine.Transaction
import TaskPipeline.Proofs.Graph.Closing
import TaskPipeline.Proofs.Graph.Contraction
import TaskPipeline.Proofs.Graph.Detour
import TaskPipeline.Proofs.Graph.Integrity
import TaskPipeline.Proofs.Graph.Reach
import TaskPipeline.Proofs.Graph.Rewire
import TaskPipeline.Proofs.Graph.Rounds
import TaskPipeline.Proofs.Graph.WellFormed
import TaskPipeline.Proofs.Ident.Resolve
import TaskPipeline.Proofs.Ident.Shortest
import TaskPipeline.Proofs.Json.Numeral
import TaskPipeline.Proofs.Json.Reading
import TaskPipeline.Proofs.Json.Tokens
import TaskPipeline.Proofs.Order.Counting
import TaskPipeline.Proofs.Order.Least
import TaskPipeline.Proofs.Order.Levels
import TaskPipeline.Proofs.Order.Sort
import TaskPipeline.Proofs.Order.Verdict
import TaskPipeline.Proofs.Record.Fields
import TaskPipeline.Proofs.Record.Stored
import TaskPipeline.Proofs.Record.Task
import TaskPipeline.Proofs.Service.Acyclic
import TaskPipeline.Proofs.Service.Capacity
import TaskPipeline.Proofs.Service.Completing
import TaskPipeline.Proofs.Service.Contention
import TaskPipeline.Proofs.Service.Leftover
import TaskPipeline.Proofs.Service.Linking
import TaskPipeline.Proofs.Service.Lockstep
import TaskPipeline.Proofs.Service.Merging
import TaskPipeline.Proofs.Service.NoEffect
import TaskPipeline.Proofs.Service.OpenWork
import TaskPipeline.Proofs.Service.Rejoining
import TaskPipeline.Proofs.Service.Serial
import TaskPipeline.Proofs.Service.Splitting
import TaskPipeline.Proofs.Service.Starting
import TaskPipeline.Proofs.Service.Trail
import TaskPipeline.Proofs.Service.Turn
import TaskPipeline.Proofs.Service.Uniting
import TaskPipeline.Proofs.Service.Untouched
import TaskPipeline.Proofs.Service.WorkDone
import TaskPipeline.Proofs.Store.Appending
import TaskPipeline.Proofs.Store.Batch
import TaskPipeline.Proofs.Store.Journal
import TaskPipeline.Proofs.Store.Mirror
import TaskPipeline.Proofs.Store.Refusal
import TaskPipeline.Proofs.Store.Repository
import TaskPipeline.Proofs.Store.Several
import TaskPipeline.Proofs.Store.Shared
import TaskPipeline.Proofs.Task.Absorb
import TaskPipeline.Proofs.Task.Flows
import TaskPipeline.Proofs.Task.Lookup
import TaskPipeline.Proofs.Task.Outstanding
import TaskPipeline.Proofs.Task.Points
import TaskPipeline.Proofs.Task.Transition
import TaskPipeline.Proofs.Text.Digits
import TaskPipeline.Proofs.Text.Fronts
import TaskPipeline.Proofs.Time.Order
import TaskPipeline.Proofs.Time.Reading
import TaskPipeline.Proofs.User.Reminder
import TaskPipeline.Proofs.User.Selection
import TaskPipeline.Record.Settings
import TaskPipeline.Record.Task
import TaskPipeline.Record.User
import TaskPipeline.Service.Failure
import TaskPipeline.Service.Handle
import TaskPipeline.Service.Message
import TaskPipeline.Settings.Basic
import TaskPipeline.Settings.Reader
import TaskPipeline.Store.ChangeSet
import TaskPipeline.Store.File
import TaskPipeline.Store.Interference
import TaskPipeline.Store.Journal
import TaskPipeline.Store.Memory
import TaskPipeline.Store.Script
import TaskPipeline.Task.Basic
import TaskPipeline.Task.Flows
import TaskPipeline.Task.Points
import TaskPipeline.Task.Stage
import TaskPipeline.Task.Tag
import TaskPipeline.Task.Transition
import TaskPipeline.Task.Work
import TaskPipeline.Text.Blank
import TaskPipeline.Text.CaseTable
import TaskPipeline.Text.DisplayTable
import TaskPipeline.Text.Lines
import TaskPipeline.Text.LowerCase
import TaskPipeline.Text.Quoted
import TaskPipeline.Text.Ranges
import TaskPipeline.Text.Terminal
import TaskPipeline.Time.Date
import TaskPipeline.Time.Instant
import TaskPipeline.Time.Printer
import TaskPipeline.Time.Reader
import TaskPipeline.Toml.Document
import TaskPipeline.Toml.Scalar
import TaskPipeline.Toml.Table
import TaskPipeline.User.Basic
import TaskPipeline.User.Reminder
import TaskPipeline.Workspace.Basic
import TaskPipeline.Workspace.Place
import TaskPipeline.Workspace.Tree
