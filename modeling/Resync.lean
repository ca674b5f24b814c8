import Resync.Assoc
import Resync.Cluster.ActiveSet
import Resync.Cluster.Setup
import Resync.Cluster.World
import Resync.Config.FileTree
import Resync.Config.Reading
import Resync.Config.Search
import Resync.Config.Settings
import Resync.Connection
import Resync.Context.Basic
import Resync.Context.Draft
import Resync.Credential
import Resync.Error
import Resync.Identifier.Quoting
import Resync.Identifier.Reserved
import Resync.Job.Allowance
import Resync.Job.Basic
import Resync.Job.Context
import Resync.Job.Interleaving
import Resync.Job.Program
import Resync.Job.Schedule
import Resync.Job.Step
import Resync.Job.Synchronization
import Resync.Log.Event
import Resync.Log.Filter
import Resync.Log.Setup
import Resync.Pattern.Basic
import Resync.Pattern.Class
import Resync.Pattern.ClassRun
import Resync.Pattern.Escape
import Resync.Pattern.Mode
import Resync.Pool
import Resync.Proofs.Cluster.ActiveSet
import Resync.Proofs.Cluster.Connections
import Resync.Proofs.Cluster.Counterpart
import Resync.Proofs.Cluster.Faithful
import Resync.Proofs.Cluster.History
import Resync.Proofs.Cluster.Independence
import Resync.Proofs.Cluster.Inquiry
import Resync.Proofs.Config.Nearest
import Resync.Proofs.Config.Place
import Resync.Proofs.Connection.Access
import Resync.Proofs.Connection.Answers
import Resync.Proofs.Connection.Probe
import Resync.Proofs.Connection.ResultSets
import Resync.Proofs.Context.Draft
import Resync.Proofs.Context.Lockstep
import Resync.Proofs.Context.Making
import Resync.Proofs.Context.Outcome
import Resync.Proofs.Context.Serving
import Resync.Proofs.Credential.Stored
import Resync.Proofs.Identifier.Decision
import Resync.Proofs.Identifier.Letters
import Resync.Proofs.Identifier.Reading
import Resync.Proofs.Identifier.Separation
import Resync.Proofs.Identifier.Token
import Resync.Proofs.Identifier.Written
import Resync.Proofs.Job.Closings
import Resync.Proofs.Job.Conduct
import Resync.Proofs.Job.Extension
import Resync.Proofs.Job.Faithful
import Resync.Proofs.Job.Lockstep
import Resync.Proofs.Job.OwnProbes
import Resync.Proofs.Job.Precedence
import Resync.Proofs.Job.Rules
import Resync.Proofs.Job.Runs
import Resync.Proofs.Job.Schedule
import Resync.Proofs.Job.Served
import Resync.Proofs.Job.Sweep
import Resync.Proofs.Job.Synchronization
import Resync.Proofs.Job.Teardown
import Resync.Proofs.Job.Tickets
import Resync.Proofs.Job.Traffic
import Resync.Proofs.Job.Twin
import Resync.Proofs.Pattern.ClassRun
import Resync.Proofs.Pool.Account
import Resync.Proofs.Pool.Reliability
import Resync.Proofs.Registry.Calls
import Resync.Proofs.Registry.CloseCall
import Resync.Proofs.Registry.ClosedOnce
import Resync.Proofs.Registry.Occupancy
import Resync.Proofs.Registry.OneConnection
import Resync.Proofs.Registry.Traffic
import Resync.Proofs.Schema.Inquiry
import Resync.Proofs.Schema.Topics
import Resync.Proofs.Snapshot.Agreement
import Resync.Proofs.Snapshot.Columns
import Resync.Proofs.Snapshot.Faithful
import Resync.Proofs.Snapshot.Grouping
import Resync.Proofs.Snapshot.Indexes
import Resync.Proofs.Snapshot.Keeping
import Resync.Proofs.Snapshot.Listing
import Resync.Proofs.Snapshot.LoadFault
import Resync.Proofs.Snapshot.Lookup
import Resync.Proofs.Snapshot.NormalForm
import Resync.Proofs.Snapshot.Strategies
import Resync.Proofs.Snapshot.TableName
import Resync.Proofs.Statement.Members
import Resync.Proofs.Statement.Readable
import Resync.Proofs.Text.Base64
import Resync.Proofs.Text.Blank
import Resync.Proofs.Text.Letters
import Resync.Proofs.Text.Scan
import Resync.Proofs.Text.Utf8
import Resync.Registry
import Resync.Schema.Row
import Resync.Schema.Script
import Resync.Snapshot.AutoIncrement
import Resync.Snapshot.Basic
import Resync.Snapshot.Cache
import Resync.Snapshot.Form
import Resync.Snapshot.Introspection
import Resync.Snapshot.Listing
import Resync.Statement
import Resync.Statement.Plan
import Resync.Statement.Warning
import Resync.Strategy.Script
import Resync.Text.AlphanumericTable
import Resync.Text.Base64
import Resync.Text.Blank
import Resync.Text.CaseTable
import Resync.Text.Hex
import Resync.Text.HiddenTable
import Resync.Text.Json
import Resync.Text.Literal
import Resync.Text.LowerCase
import Resync.Text.NumeralTable
import Resync.Text.Piece
import Resync.Text.Scan
import Resync.Text.Utf8
import Resync.Toml.Document
import Resync.Toml.Line
import Resync.Toml.Node
import Resync.Toml.Number
import Resync.Toml.Quoted
import Resync.Toml.Value
