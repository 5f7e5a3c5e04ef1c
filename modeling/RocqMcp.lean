import RocqMcp.Library.Runs
import RocqMcp.Library.WaitGraph
import RocqMcp.Library.Action
import RocqMcp.Library.Stream
import RocqMcp.Library.Splice
import RocqMcp.Library.Table
import RocqMcp.Library.Delimited
import RocqMcp.Library.Words
import RocqMcp.Types
import RocqMcp.Text
import RocqMcp.Pet.Protocol
import RocqMcp.Pet.Response
import RocqMcp.Pet.Framing
import RocqMcp.Pet.Reading
import RocqMcp.Dune.Layout
import RocqMcp.Dune.Sexp
import RocqMcp.Dune.Lexing
import RocqMcp.Dune.Inversion
import RocqMcp.Checkpoint
import RocqMcp.World
import RocqMcp.Pet.Actor
import RocqMcp.Pet.Transport
import RocqMcp.Dune.Project
import RocqMcp.Dune.OsPath
import RocqMcp.Dune.Loading
import RocqMcp.Dune.Identity
import RocqMcp.Dune.Probe
import RocqMcp.Engine.View
import RocqMcp.Engine.Declarations
import RocqMcp.Engine.Symbols
import RocqMcp.Engine.Proof
import RocqMcp.Engine.Audit
import RocqMcp.Writeback
import RocqMcp.Engine.Publication
import RocqMcp.Engine.Replacement
import RocqMcp.Adapter.Arguments
import RocqMcp.Adapter.Session
import RocqMcp.Adapter.Tools
import RocqMcp.Server
import RocqMcp.Frame
import RocqMcp.Dune.Refresh
import RocqMcp.Pet.Ownership
import RocqMcp.Pet.Calls
import RocqMcp.Pet.Operations
import RocqMcp.Pet.Provenance
import RocqMcp.Pet.Losses
import RocqMcp.Locks.Program
import RocqMcp.Locks.Server
import RocqMcp.Locks.Stage
import RocqMcp.Locks.Deadlock
import RocqMcp.Engine.Ownership
import RocqMcp.Engine.Provenance
import RocqMcp.Engine.Admission
import RocqMcp.Adapter.GoalDiff
import RocqMcp.Adapter.Paging
import RocqMcp.Adapter.Lineage
import RocqMcp.Adapter.Custody
import RocqMcp.Adapter.Boundary
import RocqMcp.Adapter.Replay
import RocqMcp.Adapter.Service
import RocqMcp.Adapter.Publication
import RocqMcp.Adapter.Commits
import RocqMcp.Adapter.Acceptance
import RocqMcp.Adapter.Dispatch
import RocqMcp.Adapter.Attachment
import RocqMcp.Adapter.Events
import RocqMcp.Adapter.History
import RocqMcp.Adapter.Rewinding
import RocqMcp.Dune.Targets
import RocqMcp.Pet.Positions
import RocqMcp.Pet.Neutral
import RocqMcp.Engine.Identifiers
import RocqMcp.Engine.Fragments
import RocqMcp.Trace.Parallel
import RocqMcp.Adapter.Locating
import RocqMcp.Pet.Fragments
import RocqMcp.Engine.Records
import RocqMcp.Dune.Rules
import RocqMcp.Adapter.Limits
import RocqMcp.Adapter.Runs
import RocqMcp.Adapter.Mishaps
import RocqMcp.Library.Registry
import RocqMcp.Dune.Gate
import RocqMcp.Adapter.Runtimes
import RocqMcp.Adapter.Progress
import RocqMcp.Adapter.Connection
import RocqMcp.Adapter.Standing
import RocqMcp.Adapter.Explained
import RocqMcp.Adapter.Reads
import RocqMcp.Adapter.Transaction
import RocqMcp.Adapter.Completion
import RocqMcp.Adapter.Writes
import RocqMcp.Adapter.Atomicity
