import Supervisor.CommandLine.Basic
import Supervisor.CommandLine.Help
import Supervisor.Daemon
import Supervisor.Disk
import Supervisor.Event
import Supervisor.Executor
import Supervisor.Fault
import Supervisor.Host
import Supervisor.Json.Printer
import Supervisor.Json.Reader
import Supervisor.Logging.Filter
import Supervisor.Logging.Level
import Supervisor.Main
import Supervisor.Manifest.Basic
import Supervisor.Manifest.Draft
import Supervisor.Manifest.Order
import Supervisor.Manifest.Resolve
import Supervisor.Manifest.Summary
import Supervisor.NameMap
import Supervisor.Number.Binary64
import Supervisor.Number.Shortest
import Supervisor.Policy
import Supervisor.Procedure
import Supervisor.ProcessTable
import Supervisor.Program
import Supervisor.Proofs.Executor.CarriedOut
import Supervisor.Proofs.Executor.Course
import Supervisor.Proofs.Executor.Prescribed
import Supervisor.Proofs.Json.RoundTrip
import Supervisor.Proofs.Manifest.Accepted
import Supervisor.Proofs.Manifest.Cycle
import Supervisor.Proofs.Manifest.Dispatch
import Supervisor.Proofs.Manifest.Drafts
import Supervisor.Proofs.Manifest.Identifiers
import Supervisor.Proofs.Manifest.Modes
import Supervisor.Proofs.Manifest.Order
import Supervisor.Proofs.Manifest.Search
import Supervisor.Proofs.Manifest.Validated
import Supervisor.Proofs.Process.History
import Supervisor.Proofs.Process.Latest
import Supervisor.Proofs.Process.Table
import Supervisor.Proofs.Process.Tokens
import Supervisor.Proofs.Process.Told
import Supervisor.Proofs.Queue.Acceptance
import Supervisor.Proofs.Queue.Asking
import Supervisor.Proofs.Queue.Balance
import Supervisor.Proofs.Queue.Closure
import Supervisor.Proofs.Queue.Confluence
import Supervisor.Proofs.Queue.Dependency
import Supervisor.Proofs.Queue.Effects
import Supervisor.Proofs.Queue.Eviction
import Supervisor.Proofs.Queue.History
import Supervisor.Proofs.Queue.LaunchCount
import Supervisor.Proofs.Queue.Once
import Supervisor.Proofs.Queue.Recovery
import Supervisor.Proofs.Queue.Rest
import Supervisor.Proofs.Queue.Scanning
import Supervisor.Proofs.Queue.Schedule
import Supervisor.Proofs.Queue.Snapshot
import Supervisor.Proofs.Queue.Soundness
import Supervisor.Proofs.Queue.Stall
import Supervisor.Proofs.Queue.Turn
import Supervisor.Proofs.Queue.Work
import Supervisor.Proofs.Scheduler.Channels
import Supervisor.Proofs.Scheduler.Dispatch
import Supervisor.Proofs.Scheduler.Effects
import Supervisor.Proofs.Scheduler.Launches
import Supervisor.Proofs.Scheduler.Leaving
import Supervisor.Proofs.Scheduler.Namesakes
import Supervisor.Proofs.Scheduler.Plant
import Supervisor.Proofs.Scheduler.Runs
import Supervisor.Proofs.Scheduler.Sleepers
import Supervisor.Proofs.Scheduler.Spent
import Supervisor.Proofs.Scheduler.Stillness
import Supervisor.Proofs.Scheduler.Traffic
import Supervisor.Proofs.Scheduler.Waiters
import Supervisor.Proofs.Scheduler.Wakeup
import Supervisor.Proofs.Store.Agreement
import Supervisor.Proofs.Store.Lifetimes
import Supervisor.Proofs.Store.RoundTrip
import Supervisor.Proofs.Supervision.Course
import Supervisor.Proofs.Supervision.Dispatch
import Supervisor.Proofs.Supervision.Drained
import Supervisor.Proofs.Supervision.Generations
import Supervisor.Proofs.Supervision.Histories
import Supervisor.Proofs.Supervision.Interrupted
import Supervisor.Proofs.Supervision.Oneshot
import Supervisor.Proofs.Supervision.Steps
import Supervisor.Proofs.Supervision.Tasks
import Supervisor.Queue.Basic
import Supervisor.Queue.Closure
import Supervisor.Queue.Drive
import Supervisor.Record.Basic
import Supervisor.Record.Document
import Supervisor.Rehearsal.Play
import Supervisor.Rehearsal.Stage
import Supervisor.Rehearsal.Trial
import Supervisor.Scheduler.Basic
import Supervisor.Shell.Arithmetic
import Supervisor.Shell.Expansion
import Supervisor.Shell.Machine
import Supervisor.Shell.Reader
import Supervisor.Shell.Script
import Supervisor.Shell.Streams
import Supervisor.Shell.Token
import Supervisor.Shell.Tools
import Supervisor.Status
import Supervisor.Store.Basic
import Supervisor.Supervision
import Supervisor.Task
import Supervisor.Text.Blank
import Supervisor.Text.Case
import Supervisor.Text.Classes
import Supervisor.Text.Lowercase
import Supervisor.Text.Spelling
import Supervisor.Timed
import Supervisor.Toml.DateTime
import Supervisor.Toml.Node
import Supervisor.Toml.Printer
import Supervisor.Toml.Quotation
import Supervisor.Toml.Reader
import Supervisor.Toml.Scalar
import Supervisor.Toml.Value
import Supervisor.Watchers
import Supervisor.Workshop
import Supervisor.Workshop.Session
