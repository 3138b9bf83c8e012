import ShardScan.Coercion.Types
import ShardScan.Coercion.Values
import ShardScan.Connection.Options
import ShardScan.Plan.Range
import ShardScan.Store.Layout

/-!
# Scan plans

The description of one table scan: made once where the query is planned, and
sent unchanged to every worker that reads one of its shards.

## Main definitions

* `ScanPlan`, `Shard` — a scan, and the unit of work that one reader gets of it.
* `ScanPlan.plannedRange` — the range of keys that the pushed-down predicates allow;
  `ScanPlan.plannedRange?` says whether it comes about at all.
* `ScanPlan.shards` — the units of work.
* `Shard.effectiveRange`, `Shard.effectiveRange?` — the part of the planned range that lies in a
  shard.
-/

namespace ShardScan

/-- The description of one table scan. -/
structure ScanPlan where
  /-- The options by which a worker finds its connection. -/
  connection : ConnectionOptions
  tableName : String
  tablePath : String
  /-- The columns the table has. -/
  tableSchema : Schema
  /-- The columns the engine asked for. -/
  outSchema : Schema
  keyColumns : List String
  keyTypes : List StoreType
  planned : PlannedRange
  /-- The key ranges of the table's shards. -/
  partitions : List KeyRange
  queueDepth : Word .u64
  sessionSeconds : Word .u64
  rowLimit : Option (Word .u64)
deriving DecidableEq

/-- A unit of work: one shard of a scanned table. -/
structure Shard where
  plan : ScanPlan
  index : Word .u64
  range : KeyRange
deriving DecidableEq

namespace ScanPlan

/-- The columns read from the store, in output order.  Where the engine asked for none the first
key column is read, for the store has to return something per row. -/
def outColumns (p : ScanPlan) : List String :=
  if p.outSchema.fields.isEmpty then p.keyColumns.take 1 else p.outSchema.names

/-- A prefix of literals as store values of the key's types, up to the first literal that its type
has no value for.  A shorter prefix only widens a range. -/
def storeKey : List Scalar → List StoreType → Tuple
  | v :: vs, t :: ts =>
    match v.toStoreKey t with
    | .ok value => value :: storeKey vs ts
    | .error _ => []
  | _, _ => []

/-- The conversion of a prefix of literals comes to one at which it overflows. -/
def storeKeyOverflows : List Scalar → List StoreType → Bool
  | v :: vs, t :: ts =>
    match v.toStoreKey t with
    | .ok _ => storeKeyOverflows vs ts
    | .error e => e = .overflow
  | _, _ => false

/-- The range of keys that the predicates allow, both ends included. -/
def plannedRange (p : ScanPlan) : KeyRange where
  lower := .ofTuple (storeKey p.planned.lower p.keyTypes) true
  upper := .ofTuple (storeKey p.planned.upper p.keyTypes) true

/-- The planned range as it comes about; none where the conversion of a literal overflows, for the
program that asks for the range stops there. -/
def plannedRange? (p : ScanPlan) : Option KeyRange :=
  if storeKeyOverflows p.planned.lower p.keyTypes || storeKeyOverflows p.planned.upper p.keyTypes then
    none
  else some p.plannedRange

/-- The units of work: one per shard, or a single one for a table without shards. -/
def shards (p : ScanPlan) : List Shard :=
  if p.partitions.isEmpty then [⟨p, 0, .all⟩]
  else p.partitions.mapIdx fun i range => ⟨p, Word.ofResidue .u64 i, range⟩

/-- The plans are equal, floating-point values as numbers. -/
def agrees (a b : ScanPlan) : Bool :=
  a.connection = b.connection && a.tableName == b.tableName && a.tablePath == b.tablePath &&
    a.tableSchema = b.tableSchema && a.outSchema = b.outSchema && a.keyColumns == b.keyColumns &&
    a.keyTypes = b.keyTypes && a.planned.agrees b.planned &&
    a.partitions.length == b.partitions.length &&
    ((a.partitions.zip b.partitions).all fun (x, y) => x.agrees y) &&
    a.queueDepth = b.queueDepth && a.sessionSeconds = b.sessionSeconds && a.rowLimit = b.rowLimit

end ScanPlan

namespace Shard

/-- The part of the planned range that lies in the shard; it may be empty. -/
def effectiveRange (s : Shard) : KeyRange := s.range.inter s.plan.plannedRange

/-- That part as it comes about; none where the planned range does not. -/
def effectiveRange? (s : Shard) : Option KeyRange := s.plan.plannedRange?.map s.range.inter

/-- The table, the number of the shard and its range. -/
def display (s : Shard) : String :=
  s.plan.tableName ++ "#" ++ toString s.index.val ++ " " ++ s.range.display

/-- The shards are equal, floating-point values as numbers. -/
def agrees (a b : Shard) : Bool :=
  a.plan.agrees b.plan && a.index = b.index && a.range.agrees b.range

end Shard
end ShardScan
