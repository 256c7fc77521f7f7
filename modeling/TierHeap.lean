import TierHeap.Abi.Entry
import TierHeap.Arena.Allocator
import TierHeap.Arena.Basic
import TierHeap.Backend.Basic
import TierHeap.Backend.Simulated
import TierHeap.Backend.System
import TierHeap.BlockTable
import TierHeap.Churn.Run
import TierHeap.Churn.Worker
import TierHeap.Cli.Arguments
import TierHeap.Cli.Commands
import TierHeap.Cli.FileTree
import TierHeap.Cli.Help
import TierHeap.Cli.Rehearsal
import TierHeap.Config.Basic
import TierHeap.Config.Lookup
import TierHeap.Config.Size
import TierHeap.Engine.Basic
import TierHeap.Engine.Calls
import TierHeap.Engine.Queries
import TierHeap.Engine.Session
import TierHeap.Error
import TierHeap.Failure
import TierHeap.Granularity
import TierHeap.Journal.Artifacts
import TierHeap.Journal.Check
import TierHeap.Journal.Emitter
import TierHeap.Journal.Entry
import TierHeap.Json.Basic
import TierHeap.Json.Printer
import TierHeap.Json.Reader
import TierHeap.Json.Token
import TierHeap.Layout
import TierHeap.Log.Fifo
import TierHeap.Log.Level
import TierHeap.Log.Lifecycle
import TierHeap.Main
import TierHeap.Memory
import TierHeap.Metrics
import TierHeap.Mode
import TierHeap.Number.Binary64
import TierHeap.Number.Shortest
import TierHeap.Ordered.NatMap
import TierHeap.Ordered.SizeIndex
import TierHeap.ProcessHeap
import TierHeap.ProgramHeap
import TierHeap.Proofs.Abi.Entries
import TierHeap.Proofs.Abi.Isolation
import TierHeap.Proofs.Abi.Resizing
import TierHeap.Proofs.Allocator.Consistency
import TierHeap.Proofs.Allocator.Figures
import TierHeap.Proofs.Allocator.Growth
import TierHeap.Proofs.Allocator.Lending
import TierHeap.Proofs.Allocator.Outcomes
import TierHeap.Proofs.Allocator.Tenancy
import TierHeap.Proofs.Arena.Accounting
import TierHeap.Proofs.Arena.Carving
import TierHeap.Proofs.Arena.Idle
import TierHeap.Proofs.Arena.Joining
import TierHeap.Proofs.Arena.Operations
import TierHeap.Proofs.Arena.Span
import TierHeap.Proofs.Arena.Tiling
import TierHeap.Proofs.Backend.Dealings
import TierHeap.Proofs.Backend.Recording
import TierHeap.Proofs.BlockTable
import TierHeap.Proofs.Engine.Accounting
import TierHeap.Proofs.Engine.Backing
import TierHeap.Proofs.Engine.Building
import TierHeap.Proofs.Engine.Changes
import TierHeap.Proofs.Engine.Lending
import TierHeap.Proofs.Engine.Records
import TierHeap.Proofs.Engine.Refusals
import TierHeap.Proofs.Engine.Replay
import TierHeap.Proofs.Engine.Reporting
import TierHeap.Proofs.Engine.Runs
import TierHeap.Proofs.Engine.Selection
import TierHeap.Proofs.Engine.Separation
import TierHeap.Proofs.Engine.Tallies
import TierHeap.Proofs.Engine.Tasks
import TierHeap.Proofs.Engine.Verification
import TierHeap.Proofs.Granularity
import TierHeap.Proofs.Interleaving.Books
import TierHeap.Proofs.Interleaving.Custody
import TierHeap.Proofs.Interleaving.History
import TierHeap.Proofs.Interleaving.Lending
import TierHeap.Proofs.Interleaving.Machine
import TierHeap.Proofs.Interleaving.Reached
import TierHeap.Proofs.Interleaving.Recording
import TierHeap.Proofs.Interleaving.Runs
import TierHeap.Proofs.Interleaving.Safety
import TierHeap.Proofs.Log.Appending
import TierHeap.Proofs.Log.Replay
import TierHeap.Proofs.Memory
import TierHeap.Proofs.Metrics
import TierHeap.Proofs.Ordered.Entries
import TierHeap.Proofs.Process.Alike
import TierHeap.Proofs.Process.Contents
import TierHeap.Proofs.Process.Runs
import TierHeap.Proofs.Process.Sessions
import TierHeap.Proofs.Word
import TierHeap.Report.Backend
import TierHeap.Report.Churn
import TierHeap.Report.Config
import TierHeap.Report.Engine
import TierHeap.Report.Failure
import TierHeap.Report.Journal
import TierHeap.Report.Tier
import TierHeap.Segment
import TierHeap.Sha256
import TierHeap.Text.Blank
import TierHeap.Text.Digits
import TierHeap.Text.GraphemeExtend
import TierHeap.Text.Hex
import TierHeap.Text.Ignorable
import TierHeap.Text.Quoted
import TierHeap.Text.Unprintable
import TierHeap.Tier
import TierHeap.Timestamp
import TierHeap.Word
import TierHeap.Proofs.Mode.Registry
import TierHeap.Proofs.Allocator.ZeroCeiling
import TierHeap.Proofs.Config.Reading
import TierHeap.Proofs.Log.Retention
import TierHeap.Proofs.Engine.Kinds
import TierHeap.Proofs.Engine.Barring
import TierHeap.Proofs.Process.Fencing
import TierHeap.Proofs.Interleaving.Barring
import TierHeap.Proofs.Churn.Books
import TierHeap.Proofs.Churn.Runs
import TierHeap.Proofs.Churn.Summary
import TierHeap.Proofs.Churn.Schedules
import TierHeap.Proofs.Text.Numerals
import TierHeap.Proofs.Json.Tokens
import TierHeap.Proofs.Json.Reading
import TierHeap.Proofs.Json.Members
import TierHeap.Proofs.Journal.Entries
import TierHeap.Proofs.Journal.Lines
import TierHeap.Proofs.Journal.Emission
import TierHeap.Proofs.Journal.Agreement
import TierHeap.Proofs.Journal.Conformance
import TierHeap.Proofs.Process.Allocation
import TierHeap.Proofs.Allocator.Trimming
import TierHeap.Proofs.Allocator.Regaining
import TierHeap.Proofs.Engine.Trimming
import TierHeap.Proofs.Process.Refusals
import TierHeap.Proofs.Abi.Refusals
import TierHeap.Proofs.Abi.Errors
import TierHeap.Proofs.Adapter.Orders
import TierHeap.Proofs.Adapter.Serving
import TierHeap.Proofs.Adapter.Runs
import TierHeap.Proofs.Adapter.Routing
import TierHeap.Proofs.Arena.Vacancy
import TierHeap.Proofs.Allocator.Reached
import TierHeap.Proofs.Arena.BestFit
import TierHeap.Proofs.Arena.Restoring
import TierHeap.Proofs.Allocator.Fitting
import TierHeap.Proofs.Allocator.Resizing
import TierHeap.Proofs.Allocator.Reuse
import TierHeap.Proofs.Allocator.Reserve
import TierHeap.Proofs.Calendar.Gregorian
import TierHeap.Proofs.Calendar.Days
import TierHeap.Proofs.Calendar.Timestamps
import TierHeap.Proofs.Config.Sizes
import TierHeap.Proofs.Engine.RefusalRecords
import TierHeap.Proofs.Engine.CheckedVerification
import TierHeap.Proofs.Engine.CheckedCalls
import TierHeap.Proofs.Interleaving.Attempts
import TierHeap.Proofs.Interleaving.Checked
import TierHeap.Proofs.Log.Traces
import TierHeap.Proofs.Log.Runs
import TierHeap.Proofs.BlockTable.Sharding
import TierHeap.Proofs.Config.Independence
import TierHeap.Proofs.Slot.Machine
import TierHeap.Proofs.Slot.Turns
import TierHeap.Proofs.Slot.Invariants
import TierHeap.Proofs.Slot.Progress
import TierHeap.Proofs.Slot.Runs
import TierHeap.Proofs.Engine.GrowthUnit
