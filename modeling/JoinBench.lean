import JoinBench.Address
import JoinBench.Benchmark
import JoinBench.Command
import JoinBench.CommandLine.Bench
import JoinBench.CommandLine.GenData
import JoinBench.CommandLine.Options
import JoinBench.Csv.Fault
import JoinBench.Csv.Reader
import JoinBench.Csv.Writer
import JoinBench.Decimal.Double
import JoinBench.Decimal.Rounding
import JoinBench.Decimal.Shortest
import JoinBench.Docker.Body
import JoinBench.Docker.Connect
import JoinBench.Docker.Daemon
import JoinBench.Docker.Listing
import JoinBench.Docker.LogStream
import JoinBench.Environment.Basic
import JoinBench.Environment.Settings
import JoinBench.Error
import JoinBench.Fabric
import JoinBench.Grid
import JoinBench.Host.Cluster
import JoinBench.Host.Memory
import JoinBench.Host.Request
import JoinBench.Host.Rule
import JoinBench.Host.Unit
import JoinBench.Http
import JoinBench.Identity
import JoinBench.Interrupt
import JoinBench.Interrupt.Listener
import JoinBench.Interrupt.Shutdown
import JoinBench.Job
import JoinBench.Json.Decode
import JoinBench.Json.Fault
import JoinBench.Json.Outline
import JoinBench.Json.Printer
import JoinBench.Json.Reader
import JoinBench.Json.Shown
import JoinBench.Json.Value
import JoinBench.Lifecycle.Manager
import JoinBench.Lifecycle.State
import JoinBench.Log
import JoinBench.Main
import JoinBench.Oracle.Experiment
import JoinBench.Oracle.Files
import JoinBench.Oracle.Table
import JoinBench.Output
import JoinBench.Program.Basic
import JoinBench.Program.Run
import JoinBench.Proofs.Benchmark.Actions
import JoinBench.Proofs.Benchmark.BaseImage
import JoinBench.Proofs.Benchmark.Grid
import JoinBench.Proofs.Benchmark.Independence
import JoinBench.Proofs.Benchmark.Interrupted
import JoinBench.Proofs.Benchmark.Launches
import JoinBench.Proofs.Benchmark.Phases
import JoinBench.Proofs.Benchmark.Point
import JoinBench.Proofs.Benchmark.Verdict
import JoinBench.Proofs.Command
import JoinBench.Proofs.CommandLine.GenData
import JoinBench.Proofs.Csv.RoundTrip
import JoinBench.Proofs.Docker.Conversation
import JoinBench.Proofs.Docker.Daemon
import JoinBench.Proofs.Docker.LogStream
import JoinBench.Proofs.Environment
import JoinBench.Proofs.Environment.Usable
import JoinBench.Proofs.Environment.Written
import JoinBench.Proofs.Fabric
import JoinBench.Proofs.Grid
import JoinBench.Proofs.Host.Cluster
import JoinBench.Proofs.Host.Faithful
import JoinBench.Proofs.Host.Numbers
import JoinBench.Proofs.Host.Ready
import JoinBench.Proofs.Interrupt.Shutdown
import JoinBench.Proofs.Json.Brackets
import JoinBench.Proofs.Json.Decode
import JoinBench.Proofs.Json.Document
import JoinBench.Proofs.Json.Members
import JoinBench.Proofs.Json.Number
import JoinBench.Proofs.Json.OneLine
import JoinBench.Proofs.Json.Order
import JoinBench.Proofs.Json.RoundTrip
import JoinBench.Proofs.Json.Spelling
import JoinBench.Proofs.Json.Text
import JoinBench.Proofs.Json.Uniform
import JoinBench.Proofs.Json.Unknown
import JoinBench.Proofs.Json.Value
import JoinBench.Proofs.Lifecycle.Actions
import JoinBench.Proofs.Lifecycle.Attempts
import JoinBench.Proofs.Lifecycle.Carrying
import JoinBench.Proofs.Lifecycle.Checkpoints
import JoinBench.Proofs.Lifecycle.Committing
import JoinBench.Proofs.Lifecycle.Hosted
import JoinBench.Proofs.Lifecycle.Invariant
import JoinBench.Proofs.Lifecycle.Launching
import JoinBench.Proofs.Lifecycle.Operations
import JoinBench.Proofs.Lifecycle.Outcomes
import JoinBench.Proofs.Lifecycle.Refusing
import JoinBench.Proofs.Lifecycle.Resetting
import JoinBench.Proofs.Lifecycle.Restoring
import JoinBench.Proofs.Lifecycle.Retrying
import JoinBench.Proofs.Lifecycle.Session
import JoinBench.Proofs.Lifecycle.Sound
import JoinBench.Proofs.Lifecycle.Spares
import JoinBench.Proofs.Lifecycle.Stage
import JoinBench.Proofs.Lifecycle.Stocked
import JoinBench.Proofs.Lifecycle.Supplied
import JoinBench.Proofs.Lifecycle.Within
import JoinBench.Proofs.Oracle.Acceptance
import JoinBench.Proofs.Oracle.Arrangement
import JoinBench.Proofs.Oracle.Columns
import JoinBench.Proofs.Oracle.Experiment
import JoinBench.Proofs.Oracle.Files
import JoinBench.Proofs.Oracle.Generation
import JoinBench.Proofs.Oracle.Join
import JoinBench.Proofs.Oracle.JoinSize
import JoinBench.Proofs.Oracle.Renaming
import JoinBench.Proofs.Outcome
import JoinBench.Proofs.Output
import JoinBench.Proofs.Program.Calls
import JoinBench.Proofs.Program.Contract
import JoinBench.Proofs.Program.Ends
import JoinBench.Proofs.Program.Interleaving
import JoinBench.Proofs.Program.Moments
import JoinBench.Proofs.Program.Outlook
import JoinBench.Proofs.Program.Record
import JoinBench.Proofs.Program.Steps
import JoinBench.Proofs.Random.Stream
import JoinBench.Proofs.ResultRecord
import JoinBench.Proofs.Sink
import JoinBench.Proofs.Statistics
import JoinBench.Proofs.Storage
import JoinBench.Proofs.Text
import JoinBench.Proofs.Text.Pieces
import JoinBench.Proofs.Text.Utf8
import JoinBench.Proofs.Topology.Names
import JoinBench.Proofs.Topology.Placement
import JoinBench.Proofs.Topology.Roles
import JoinBench.Proofs.UnitFlags
import JoinBench.Proofs.UnitFlags.Address
import JoinBench.Proofs.UnitFlags.Arguments
import JoinBench.Proofs.World.Requests
import JoinBench.Proofs.World.Scene
import JoinBench.Proofs.World.Steps
import JoinBench.Proofs.World.Story
import JoinBench.Random.ChaCha
import JoinBench.Random.Sample
import JoinBench.Random.Source
import JoinBench.ResultRecord
import JoinBench.Sink
import JoinBench.Statistics
import JoinBench.Storage
import JoinBench.Text.Blank
import JoinBench.Text.Hexadecimal
import JoinBench.Text.Lines
import JoinBench.Text.Numeral
import JoinBench.Text.Percent
import JoinBench.Text.Quoted
import JoinBench.Text.Search
import JoinBench.Text.Utf8
import JoinBench.Text.Visible
import JoinBench.Topology
import JoinBench.UnitFlags
import JoinBench.World
