import ShardScan.Plan.Scan

/-!
# Push-down

What an engine hands over before a scan: predicates, the columns it needs and
how many rows it wants.  Together with the target they make the plan.

## Main definitions

* `ScanTarget.ofLayout` — the target for a table as the store describes it.
* `Pushdown.pushPredicates` — takes predicates in and says which the engine still has to evaluate.
* `Pushdown.push` — takes in all that an engine hands over.
* `Pushdown.plan` — the finished plan.
-/

namespace ShardScan

/-- What a scan reads: a table or an index, as it was described for planning. -/
structure ScanTarget where
  name : String
  path : String
  schema : Schema
  keyColumns : List String
  keyTypes : List StoreType
  partitions : List KeyRange
deriving DecidableEq

namespace ScanTarget

/-- The target for a table with the given layout. -/
def ofLayout (name path : String) (layout : TableLayout) : ScanTarget where
  name := name
  path := path
  schema := .ofFields (layout.columns.map fun c =>
    .plain c.name c.type.toEngine c.type.isOptional)
  keyColumns := layout.primaryKey
  keyTypes := layout.primaryKey.filterMap fun key => (layout.column? key).map (·.type)
  partitions := layout.partitions

end ScanTarget

/-- What an engine has handed over for a scan. -/
structure Pushdown where
  target : ScanTarget
  options : ConnectionOptions
  predicates : List Expr
  /-- The columns asked for; all of them if nothing was said. -/
  projection : Option Schema
  rowLimit : Option (Word .u64)

namespace Pushdown

/-- A target with nothing handed over yet. -/
def start (target : ScanTarget) (options : ConnectionOptions) : Pushdown :=
  ⟨target, options, [], none, none⟩

/-- Takes predicates in.  The planned range admits rows that do not satisfy them, so the engine
has to evaluate every one again. -/
def pushPredicates (b : Pushdown) (predicates : List Expr) : List Expr × Pushdown :=
  (predicates, { b with predicates := predicates })

/-- Asks for some columns only. -/
def project (b : Pushdown) (columns : Schema) : Pushdown := { b with projection := some columns }

/-- Asks for a number of rows; zero asks for all. -/
def limitRows (b : Pushdown) (limit : Word .u64) : Pushdown :=
  { b with rowLimit := if 0 < limit.val then some limit else none }

/-- Takes in predicates and columns, as far as there are any, and then the limits; with the
predicates the engine still has to evaluate, if it handed any over. -/
def push (b : Pushdown) (predicates : Option (List Expr)) (columns : Option Schema)
    (limits : List (Word .u64)) : Option (List Expr) × Pushdown :=
  let (residual, b) := match predicates with
    | some predicates => (b.pushPredicates predicates).map some id
    | none => (none, b)
  let b := match columns with
    | some columns => b.project columns
    | none => b
  (residual, limits.foldl limitRows b)

/-- The plan for what was handed over. -/
def plan (settings : ScanSettings) (b : Pushdown) : ScanPlan where
  connection := b.options.snapshot
  tableName := b.target.name
  tablePath := b.target.path
  tableSchema := b.target.schema
  outSchema := b.projection.getD b.target.schema
  keyColumns := b.target.keyColumns
  keyTypes := b.target.keyTypes
  planned := .ofPredicates b.target.keyColumns b.predicates
  partitions := b.target.partitions
  queueDepth := b.options.queueDepth settings
  sessionSeconds := b.options.sessionSeconds settings
  rowLimit := b.rowLimit

end Pushdown
end ShardScan
