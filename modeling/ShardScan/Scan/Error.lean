import ShardScan.Batch.Error
import ShardScan.Coercion.Error
import ShardScan.KeyRange
import ShardScan.Store.Status

/-!
# Scan failures

What ends the scan of a shard, or keeps a row of it from being read.
-/

namespace ShardScan

/-- How a result block differs from the columns that were asked for. -/
inductive SchemaDrift
  | columnCount (expected got : Nat)
  | lostColumn (name : String)
deriving DecidableEq

namespace SchemaDrift

/-- The text of a difference. -/
def message : SchemaDrift → String
  | columnCount expected got =>
    "Expected columns count " ++ toString expected ++ ", but got " ++ toString got
  | lostColumn name => "Lost column [" ++ name ++ "] in the result set"

end SchemaDrift

/-- What ends the scan of a shard, or keeps a row of it from being read. -/
inductive ScanError
  /-- The session or the read could not be opened. -/
  | setup (table : String) (cause : StoreError)
  /-- The stream of blocks ended with a failure. -/
  | failed (table : String) (range : KeyRange) (status : Status)
  /-- A block had other columns than those asked for. -/
  | schemaDrift (table : String) (drift : SchemaDrift)
  /-- The producer ended without a marker behind its blocks. -/
  | producerLost (table : String)
  /-- A row was asked for where there is none. -/
  | noCurrentRow
  | coercion (cause : CoercionError)
  | batch (cause : BatchError)
deriving DecidableEq

namespace ScanError

/-- The name of a kind of failure. -/
def kind : ScanError → String
  | setup .. => "Setup"
  | failed .. => "Failed"
  | schemaDrift .. => "SchemaDrift"
  | producerLost .. => "ProducerLost"
  | noCurrentRow => "NoCurrentRow"
  | coercion .. => "Coercion"
  | batch .. => "Batch"

/-- The text of a failure. -/
def message : ScanError → String
  | setup table cause => "Failed to initiate scan for table " ++ table ++ ": " ++ cause.message
  | failed table range status =>
    "Background scan failed for table " ++ table ++ ", range " ++ range.display ++
      " [" ++ status.display ++ "]"
  | schemaDrift table drift => "Scan of table " ++ table ++ " failed: " ++ drift.message
  | producerLost table =>
    "Scan producer for table " ++ table ++ " exited without an end-of-scan marker"
  | noCurrentRow => "Nothing to read: no current row"
  | coercion cause => "Value conversion failed: " ++ cause.message
  | batch cause => "Record batch assembly failed: " ++ cause.message

/-- The status of the store behind a failure. -/
def status? : ScanError → Option Status
  | setup _ cause => some cause.status
  | failed _ _ status => some status
  | _ => none

end ScanError
end ShardScan
