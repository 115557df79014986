import Overseer.Batch.Account
import Overseer.Batch.Lifecycle
import Overseer.Batch.Log
import Overseer.Batch.Params
import Overseer.Batch.Progress
import Overseer.Batch.Snapshot
import Overseer.Console.Args
import Overseer.Console.Config
import Overseer.Console.Exit
import Overseer.Console.Follow
import Overseer.Console.Render
import Overseer.Console.Session
import Overseer.Console.Wallets
import Overseer.Decimal.Double
import Overseer.Decimal.Notation
import Overseer.Decimal.Shortest
import Overseer.Engine.Backoff
import Overseer.Engine.Client
import Overseer.Engine.Error
import Overseer.Engine.Exchange
import Overseer.Engine.Greeting
import Overseer.Engine.Harbor
import Overseer.Engine.Ids
import Overseer.Engine.Request
import Overseer.Engine.Settings
import Overseer.Engine.Switchboard
import Overseer.Host.Environment
import Overseer.Host.File
import Overseer.Host.Path
import Overseer.Json.Node
import Overseer.Json.Number
import Overseer.Json.Printer
import Overseer.Json.Reader
import Overseer.Json.Record
import Overseer.Json.Value
import Overseer.Main
import Overseer.Monitor.Board
import Overseer.Monitor.Broadcast
import Overseer.Monitor.Error
import Overseer.Monitor.Journal
import Overseer.Monitor.Keeper
import Overseer.Monitor.Merge
import Overseer.Monitor.Roster
import Overseer.Monitor.Run
import Overseer.Monitor.Settings
import Overseer.Monitor.Sink
import Overseer.Monitor.Station
import Overseer.Monitor.View
import Overseer.Table
import Overseer.Text.Blank
import Overseer.Text.CaseTable
import Overseer.Text.Column
import Overseer.Text.Lowercase
import Overseer.Text.PrintTable
import Overseer.Text.Quoted
import Overseer.Text.Utf8
import Overseer.Time.Moment
import Overseer.Time.Span
import Overseer.Time.Stamp
import Overseer.Toml.Quoted
import Overseer.Toml.Reader
import Overseer.Toml.Scalar
import Overseer.Toml.Scan
import Overseer.Toml.Tree
import Overseer.Wire.Envelope
import Overseer.Wire.Frame
import Overseer.Wire.Message
import Overseer.Proofs.Monitor.Board
import Overseer.Proofs.Monitor.Keeper
import Overseer.Proofs.Monitor.LateReturns
import Overseer.Proofs.Monitor.Roster
import Overseer.Proofs.Monitor.Published
import Overseer.Proofs.Monitor.Standing
import Overseer.Proofs.Monitor.Moves
import Overseer.Proofs.Monitor.Control
import Overseer.Proofs.Monitor.Debts
import Overseer.Proofs.Monitor.Calls
import Overseer.Proofs.Monitor.Ledger
import Overseer.Proofs.Monitor.Stop
import Overseer.Proofs.Json.Documents
import Overseer.Proofs.Json.Meaning
import Overseer.Proofs.Json.Records
import Overseer.Proofs.Wire.Envelopes
import Overseer.Proofs.Wire.Stream
import Overseer.Proofs.Monitor.Refusal
import Overseer.Proofs.Monitor.Closing
import Overseer.Proofs.Wire.Cuts
import Overseer.Proofs.Monitor.Timer
import Overseer.Proofs.Monitor.Loads
import Overseer.Proofs.Monitor.Starts
import Overseer.Proofs.Engine.Client
import Overseer.Proofs.Engine.Requests
import Overseer.Proofs.Engine.Correlation
import Overseer.Proofs.Monitor.Journal
import Overseer.Proofs.Monitor.Views
import Overseer.Proofs.Engine.Logs
import Overseer.Proofs.Engine.Writing
import Overseer.Proofs.Engine.Crossing
import Overseer.Proofs.Wire.Lines
import Overseer.Proofs.Wire.Chunks
import Overseer.Proofs.Monitor.Operations
import Overseer.Proofs.Monitor.Details
import Overseer.Proofs.Monitor.Notices
import Overseer.Proofs.Console.Acts
import Overseer.Proofs.Console.Chronicles
import Overseer.Proofs.Console.Tally
import Overseer.Proofs.Console.Bursts
import Overseer.Proofs.Console.Log
import Overseer.Proofs.Console.Summary
import Overseer.Proofs.Monitor.Reloads
import Overseer.Proofs.Monitor.Reconciliation
import Overseer.Proofs.Wire.Statuses
import Overseer.Proofs.Monitor.Projection
import Overseer.Proofs.Console.Screens
import Overseer.Proofs.Console.StatusTables
import Overseer.Proofs.Monitor.Gate
import Overseer.Proofs.Engine.Pauses
import Overseer.Proofs.Text.Blank
import Overseer.Proofs.Decimal.Notation
import Overseer.Proofs.Json.Whole
import Overseer.Proofs.Json.Fields
import Overseer.Proofs.Json.Rendered
import Overseer.Proofs.Batch.Accounts
import Overseer.Proofs.Console.Wallets
