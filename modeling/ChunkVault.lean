import ChunkVault.Bench
import ChunkVault.Config.Decode
import ChunkVault.Config.Directory
import ChunkVault.Config.Dotenv
import ChunkVault.Config.Environment
import ChunkVault.Config.Load
import ChunkVault.Config.Settings
import ChunkVault.Http.Api
import ChunkVault.Http.ApiError
import ChunkVault.Http.Cors
import ChunkVault.Http.Message
import ChunkVault.Http.Range
import ChunkVault.Http.Route
import ChunkVault.Http.Target
import ChunkVault.Idna.Composition
import ChunkVault.Idna.Direction
import ChunkVault.Idna.Domain
import ChunkVault.Idna.Joining
import ChunkVault.Idna.Mapping
import ChunkVault.Idna.MappingTable
import ChunkVault.Idna.Punycode
import ChunkVault.Launch
import ChunkVault.Log.Event
import ChunkVault.Log.Filter
import ChunkVault.Log.Pattern
import ChunkVault.Main
import ChunkVault.Memory.Store
import ChunkVault.Memory.Tables
import ChunkVault.Memory.Transaction
import ChunkVault.Metrics
import ChunkVault.Net.Address
import ChunkVault.Net.Postgres
import ChunkVault.Net.Url
import ChunkVault.Program
import ChunkVault.Proofs.Accounting
import ChunkVault.Proofs.Bookkeeping
import ChunkVault.Proofs.Caching
import ChunkVault.Proofs.Cancellation
import ChunkVault.Proofs.Chunking
import ChunkVault.Proofs.Config.Loading
import ChunkVault.Proofs.Config.Validity
import ChunkVault.Proofs.Cursor
import ChunkVault.Proofs.Deciding
import ChunkVault.Proofs.Delivery
import ChunkVault.Proofs.Discipline
import ChunkVault.Proofs.Drain
import ChunkVault.Proofs.Ended
import ChunkVault.Proofs.Fetching
import ChunkVault.Proofs.Gathering
import ChunkVault.Proofs.Http.Download
import ChunkVault.Proofs.Http.Grammar
import ChunkVault.Proofs.Http.Handlers
import ChunkVault.Proofs.Http.Machine
import ChunkVault.Proofs.Http.Ranges
import ChunkVault.Proofs.Http.Wording
import ChunkVault.Proofs.Latch
import ChunkVault.Proofs.Layout
import ChunkVault.Proofs.Machine
import ChunkVault.Proofs.Memory.Atomicity
import ChunkVault.Proofs.Memory.Bench
import ChunkVault.Proofs.Memory.BrokenSource
import ChunkVault.Proofs.Memory.Buffering
import ChunkVault.Proofs.Memory.Changes
import ChunkVault.Proofs.Memory.Decisions
import ChunkVault.Proofs.Memory.Downloading
import ChunkVault.Proofs.Memory.Effects
import ChunkVault.Proofs.Memory.Ids
import ChunkVault.Proofs.Memory.Integrity
import ChunkVault.Proofs.Memory.Interleaving
import ChunkVault.Proofs.Memory.Linearization
import ChunkVault.Proofs.Memory.Publication
import ChunkVault.Proofs.Memory.Quiet
import ChunkVault.Proofs.Memory.References
import ChunkVault.Proofs.Memory.RoundTrip
import ChunkVault.Proofs.Memory.Serving
import ChunkVault.Proofs.Memory.Session
import ChunkVault.Proofs.Memory.Simulation
import ChunkVault.Proofs.Memory.Surroundings
import ChunkVault.Proofs.Memory.Undisturbed
import ChunkVault.Proofs.Memory.Validity
import ChunkVault.Proofs.Memory.Vault
import ChunkVault.Proofs.Memory.Waiting
import ChunkVault.Proofs.Memory.Watching
import ChunkVault.Proofs.Operations
import ChunkVault.Proofs.Polling
import ChunkVault.Proofs.Progress
import ChunkVault.Proofs.Prompt
import ChunkVault.Proofs.Reporting
import ChunkVault.Proofs.Slicing
import ChunkVault.Proofs.Smooth
import ChunkVault.Proofs.Sql.Calls
import ChunkVault.Proofs.Sql.Correspondence
import ChunkVault.Proofs.Sql.Interchange
import ChunkVault.Proofs.Sql.Lockstep
import ChunkVault.Proofs.Sql.Relational
import ChunkVault.Proofs.Sql.Validity
import ChunkVault.Proofs.Stopping
import ChunkVault.Proofs.Streaming
import ChunkVault.Proofs.Trace
import ChunkVault.Proofs.Transacted
import ChunkVault.Proofs.Upload
import ChunkVault.Reader
import ChunkVault.Record
import ChunkVault.Request
import ChunkVault.Source
import ChunkVault.Sql.Database
import ChunkVault.Sql.Entity
import ChunkVault.Sql.Migration
import ChunkVault.Sql.Script
import ChunkVault.Sql.Statement
import ChunkVault.Sql.Store
import ChunkVault.Startup
import ChunkVault.Storage
import ChunkVault.StorageError
import ChunkVault.Text.Alphanumeric
import ChunkVault.Text.Base64
import ChunkVault.Text.Binary64
import ChunkVault.Text.Blank
import ChunkVault.Text.Decimal
import ChunkVault.Text.Graphic
import ChunkVault.Text.Hex
import ChunkVault.Text.Parts
import ChunkVault.Text.Percent
import ChunkVault.Text.Printable
import ChunkVault.Text.Quoted
import ChunkVault.Text.Ranges
import ChunkVault.Text.Utf8
import ChunkVault.Timestamp
import ChunkVault.Toml.Document
import ChunkVault.Toml.Number
import ChunkVault.Toml.Quoted
import ChunkVault.Toml.Scanner
import ChunkVault.Toml.Table
import ChunkVault.Toml.Value
import ChunkVault.Uuid
import ChunkVault.Whence
import ChunkVault.Writer
