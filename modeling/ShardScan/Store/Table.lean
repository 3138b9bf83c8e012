import ShardScan.Store.Layout
import ShardScan.Store.Path
import ShardScan.Store.Status

/-!
# Tables

A table keeps its rows sorted by primary key, one row per key, and is cut into
shards at split points.  The rows of an index are those of its table, reduced
to the index columns and the rest of the primary key and sorted by them.

## Main definitions

* `Table.insertRows` — replaces or adds rows by their keys.
* `Table.split`, `Table.partitions` — the shards.
* `Table.alter` — changes of columns and properties.
* `Table.indexView` — an index as a table of its own.
-/

namespace ShardScan

/-- A table of the store. -/
structure Table where
  layout : TableLayout
  rows : List Tuple
  splitPoints : List Tuple
deriving DecidableEq

/-! ### Searching sorted rows -/

/-- Where something lies among sorted rows, or would be put. -/
inductive Place
  | found (position : Nat)
  | absent (position : Nat)
deriving DecidableEq

namespace Place

/-- Halves `size` rows from `start` on until one is left: the last row that is not above what is
looked for, or the first row. -/
def narrow (side : Tuple → Ordering) (rows : List Tuple) (start size : Nat) : Nat :=
  if 1 < size then
    let middle := start + size / 2
    let start := if (rows[middle]?.map side) = some .gt then start else middle
    narrow side rows start (size - size / 2)
  else start
termination_by size

/-- The place among sorted rows of what `side` compares rows with. -/
def of (side : Tuple → Ordering) (rows : List Tuple) : Place :=
  let position := narrow side rows 0 rows.length
  match rows[position]?.map side with
  | none => absent 0
  | some .eq => found position
  | some .lt => absent (position + 1)
  | some .gt => absent position

end Place

/-! ### Sorting -/

/-- Adds an item to a descending list, behind the items that lie above it. -/
def insertDescending {α : Type} (below : α → α → Bool) (a : α) : List α → List α
  | [] => [a]
  | b :: rest => if below a b then b :: insertDescending below a rest else a :: b :: rest

/-- The items in ascending order; those that compare equal keep their order. -/
def sortAscending {α : Type} (below : α → α → Bool) (l : List α) : List α :=
  (l.foldl (fun sorted a => insertDescending below a sorted) []).reverse

/-- The tuples without those that agree with the one kept before. -/
def dropRepeats : List Tuple → List Tuple
  | [] => []
  | t :: rest => t :: go t rest
where
  go (last : Tuple) : List Tuple → List Tuple
    | [] => []
    | t :: rest => if t.agrees last then go last rest else t :: go t rest

/-! ### Changes of a table -/

/-- A change of a table's columns or properties. -/
inductive AlterOperation
  | addColumn (column : Column)
  | dropColumn (name : String)
  | setProperty (key value : String)
  | removeProperty (key : String)
deriving DecidableEq

namespace Table

/-- The table of a layout, without rows. -/
def empty (layout : TableLayout) : Table := ⟨{ layout with partitions := [] }, [], []⟩

/-- The positions of the key columns in a row. -/
def keyPositions (t : Table) : List Nat :=
  ShardScan.keyPositions t.layout.columns t.layout.primaryKey

/-- The key of a row. -/
def key (t : Table) (row : Tuple) : Tuple := row.pick t.keyPositions

/-- The key ranges between the split points. -/
def partitions (t : Table) : List KeyRange := go .all t.splitPoints
where
  go (lower : KeyBound) : List Tuple → List KeyRange
    | [] => [⟨lower, .all⟩]
    | point :: rest => ⟨lower, .ofTuple point false⟩ :: go (.ofTuple point true) rest

/-- The layout with the shards the table is cut into. -/
def description (t : Table) : TableLayout := { t.layout with partitions := t.partitions }

/-- The rows with one more put in its place, or in place of the row with its key. -/
def insertRow (t : Table) (row : Tuple) : Table :=
  let key := t.key row
  match Place.of (fun probe => compareKeys (t.key probe) key) t.rows with
  | .found position => { t with rows := t.rows.set position row }
  | .absent position => { t with rows := t.rows.insertIdx position row }

/-- Puts rows in one after the other.  A row of the wrong width ends the insertion; the rows before
it stay. -/
def insertRows (t : Table) : List Tuple → Except StoreError Unit × Table
  | [] => (.ok (), t)
  | row :: rest =>
    if row.length = t.layout.columns.length then (t.insertRow row).insertRows rest
    else
      (.error (.of "insert rows" .badRequest
        ("Expected " ++ toString t.layout.columns.length ++ " values, got " ++
          toString row.length)), t)

/-- A split point lies before another: by its values, and a beginning before the whole. -/
def pointBelow (a b : Tuple) : Bool :=
  (compareKeys a b).then (compare a.length b.length) = .lt

/-- Cuts the table into shards at some points. -/
def split (t : Table) (points : List Tuple) : Table :=
  { t with splitPoints := dropRepeats (sortAscending pointBelow points) }

/-- Makes one change, or says why it cannot be made. -/
def alterOne (t : Table) : AlterOperation → Except StoreError Table
  | .addColumn column =>
    if (t.layout.column? column.name).isSome then
      .error (refused ("Column exists: " ++ column.name))
    else
      .ok { t with
        layout := { t.layout with columns := t.layout.columns ++ [column] }
        rows := t.rows.map (· ++ [.null]) }
  | .dropColumn name =>
    if t.layout.primaryKey.contains name then
      .error (refused ("Cannot drop key column " ++ name))
    else
      match t.layout.columns.findIdx? fun c => c.name == name with
      | none => .error (refused ("Unknown column " ++ name))
      | some position =>
        .ok { t with
          layout := { t.layout with columns := t.layout.columns.eraseIdx position }
          rows := t.rows.map (·.eraseIdx position) }
  | .setProperty key value =>
    .ok { t with layout := { t.layout with properties := t.layout.properties.insert key value } }
  | .removeProperty key =>
    .ok { t with layout := { t.layout with properties := t.layout.properties.erase key } }
where
  refused (issue : String) : StoreError := .of "alter table" .badRequest issue

/-- Makes changes one after the other.  One that cannot be made ends the list; those before it
stay. -/
def alter (t : Table) : List AlterOperation → Except StoreError Unit × Table
  | [] => (.ok (), t)
  | operation :: rest =>
    match t.alterOne operation with
    | .ok t' => t'.alter rest
    | .error e => (.error e, t)

/-! ### Indexes -/

/-- The key of an index: its columns, then the columns of the primary key that are not among
them. -/
def indexKey (t : Table) (index : Index) : List String :=
  t.layout.primaryKey.foldl (fun key name => if key.contains name then key else key ++ [name])
    index.columns

/-- An index as a table of its own: the columns of its key, in the order of the key. -/
def indexView (t : Table) (index : Index) : TableLayout × List Tuple :=
  let key := t.indexKey index
  let positions := ShardScan.keyPositions t.layout.columns key
  let rows := t.rows.map (·.pick positions)
  ({ columns := key.filterMap t.layout.column?
     primaryKey := key
     indexes := []
     properties := .empty
     partitions := [.all] },
   sortAscending (fun a b => compareKeys a b = .lt) rows)

end Table
end ShardScan
