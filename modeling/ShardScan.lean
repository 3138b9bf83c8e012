import ShardScan.Batch.Basic
import ShardScan.Batch.Batcher
import ShardScan.Batch.Error
import ShardScan.Calendar
import ShardScan.Catalog.Basic
import ShardScan.Catalog.Error
import ShardScan.Catalog.Name
import ShardScan.Catalog.Table
import ShardScan.Catalog.Tables
import ShardScan.Coercion.Error
import ShardScan.Coercion.Types
import ShardScan.Coercion.Values
import ShardScan.Connection.Options
import ShardScan.Connection.Registry
import ShardScan.Dict
import ShardScan.EngineType.Basic
import ShardScan.EngineType.Name
import ShardScan.Expr.Basic
import ShardScan.Floating.Basic
import ShardScan.Floating.Shortest
import ShardScan.IntKind
import ShardScan.Json
import ShardScan.Json.Overlay
import ShardScan.Json.Path
import ShardScan.Json.Reader
import ShardScan.KeyRange
import ShardScan.Plan.Pushdown
import ShardScan.Plan.Range
import ShardScan.Plan.Scan
import ShardScan.Proofs.Batch.Amounts
import ShardScan.Proofs.Batch.Assembly
import ShardScan.Proofs.Batch.Batches
import ShardScan.Proofs.Batch.Failures
import ShardScan.Proofs.Batch.Fitting
import ShardScan.Proofs.Catalog.Changes
import ShardScan.Proofs.Catalog.Enclosing
import ShardScan.Proofs.Catalog.Kinds
import ShardScan.Proofs.Catalog.Listing
import ShardScan.Proofs.Catalog.Loading
import ShardScan.Proofs.Catalog.Namespaces
import ShardScan.Proofs.Catalog.Paths
import ShardScan.Proofs.Catalog.Segments
import ShardScan.Proofs.Catalog.Tree
import ShardScan.Proofs.Coercion.Bounds
import ShardScan.Proofs.Coercion.Declared
import ShardScan.Proofs.Coercion.Failing
import ShardScan.Proofs.Coercion.Identifiers
import ShardScan.Proofs.Coercion.Orders
import ShardScan.Proofs.Connection.Counting
import ShardScan.Proofs.Connection.Sharing
import ShardScan.Proofs.Connection.Snapshots
import ShardScan.Proofs.Connection.Workers
import ShardScan.Proofs.Dict
import ShardScan.Proofs.Floating.Binades
import ShardScan.Proofs.KeyRange.Bounds
import ShardScan.Proofs.KeyRange.Places
import ShardScan.Proofs.KeyRange.Tiling
import ShardScan.Proofs.Outcome
import ShardScan.Proofs.Plan.Beginnings
import ShardScan.Proofs.Plan.Columns
import ShardScan.Proofs.Plan.Exact
import ShardScan.Proofs.Plan.Identifiers
import ShardScan.Proofs.Plan.Literals
import ShardScan.Proofs.Plan.Overflows
import ShardScan.Proofs.Plan.PlannedRange
import ShardScan.Proofs.Plan.Predicates
import ShardScan.Proofs.Plan.Shards
import ShardScan.Proofs.Queue.Conservation
import ShardScan.Proofs.Scan.BrokenStream
import ShardScan.Proofs.Scan.Delivery
import ShardScan.Proofs.Scan.Drift
import ShardScan.Proofs.Scan.Exhaust
import ShardScan.Proofs.Scan.Failures
import ShardScan.Proofs.Scan.IndexScan
import ShardScan.Proofs.Scan.Latch
import ShardScan.Proofs.Scan.Lifecycle
import ShardScan.Proofs.Scan.Limits
import ShardScan.Proofs.Scan.Opening
import ShardScan.Proofs.Scan.Pipeline
import ShardScan.Proofs.Scan.Progress
import ShardScan.Proofs.Scan.Schedule
import ShardScan.Proofs.Scan.Sessions
import ShardScan.Proofs.Scan.WholeScan
import ShardScan.Proofs.Store.Alteration
import ShardScan.Proofs.Store.Chunks
import ShardScan.Proofs.Store.Columns
import ShardScan.Proofs.Store.Histories
import ShardScan.Proofs.Store.IndexRows
import ShardScan.Proofs.Store.Indexes
import ShardScan.Proofs.Store.Insertions
import ShardScan.Proofs.Store.Kept
import ShardScan.Proofs.Store.Ordered
import ShardScan.Proofs.Store.Realigned
import ShardScan.Proofs.Store.Search
import ShardScan.Proofs.Store.Sharding
import ShardScan.Proofs.Store.Tables
import ShardScan.Proofs.StoreType.Names
import ShardScan.Proofs.Text.Decimals
import ShardScan.Proofs.Text.Hexadecimal
import ShardScan.Proofs.Value.Decimals
import ShardScan.Proofs.Value.Families
import ShardScan.Proofs.Wire.Laws
import ShardScan.Proofs.Wire.RoundTrip
import ShardScan.Proofs.Wire.Schemas
import ShardScan.Proofs.Wire.Values
import ShardScan.Queue
import ShardScan.Scalar.Basic
import ShardScan.Scalar.Display
import ShardScan.Scan.Error
import ShardScan.Scan.Feed
import ShardScan.Scan.Reader
import ShardScan.Scan.Rows
import ShardScan.Scan.Shared
import ShardScan.Settings.Basic
import ShardScan.Settings.Load
import ShardScan.Store.Basic
import ShardScan.Store.Block
import ShardScan.Store.Delivery
import ShardScan.Store.Directory
import ShardScan.Store.Layout
import ShardScan.Store.Path
import ShardScan.Store.Request
import ShardScan.Store.Scheme
import ShardScan.Store.Session
import ShardScan.Store.Status
import ShardScan.Store.Table
import ShardScan.StoreType.Basic
import ShardScan.StoreType.Name
import ShardScan.Text.Affix
import ShardScan.Text.Base64
import ShardScan.Text.Blank
import ShardScan.Text.Bytes
import ShardScan.Text.CharClass
import ShardScan.Text.Extending
import ShardScan.Text.Hexadecimal
import ShardScan.Text.Numeral
import ShardScan.Text.Pieces
import ShardScan.Text.Quoted
import ShardScan.Text.Unprintable
import ShardScan.Value.Basic
import ShardScan.Value.Display
import ShardScan.Value.Order
import ShardScan.Wire.Basic
import ShardScan.Wire.Plan
import ShardScan.Wire.Schema
import ShardScan.Wire.Value
import ShardScan.Word
