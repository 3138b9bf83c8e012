import ShardScan.Dict
import ShardScan.KeyRange
import ShardScan.StoreType.Basic

/-!
# Table layouts

What the store says of a table: its columns, key, shards, indexes and
properties.
-/

namespace ShardScan

/-- A column of a table. -/
structure Column where
  name : String
  type : StoreType
deriving DecidableEq

/-- A secondary index: the columns that lead its key. -/
structure Index where
  name : String
  columns : List String
deriving DecidableEq

/-- The layout of a table. -/
structure TableLayout where
  columns : List Column
  primaryKey : List String
  indexes : List Index
  properties : Dict String
  /-- The key ranges of the shards, in key order. -/
  partitions : List KeyRange
deriving DecidableEq

namespace TableLayout

/-- The column of a name. -/
def column? (t : TableLayout) (name : String) : Option Column :=
  t.columns.find? fun c => c.name == name

/-- The index of a name. -/
def index? (t : TableLayout) (name : String) : Option Index :=
  t.indexes.find? fun ix => ix.name == name

/-- The types of the key columns, if all of them are described. -/
def keyTypes? (t : TableLayout) : Option (List StoreType) :=
  t.primaryKey.mapM fun key => (t.column? key).map (·.type)

end TableLayout

/-- The positions of the key columns that are described. -/
def keyPositions (columns : List Column) (key : List String) : List Nat :=
  key.filterMap fun name => columns.findIdx? fun c => c.name == name

/-- The values of a row at some positions; NULL stands for one beyond its end. -/
def Tuple.pick (row : Tuple) (positions : List Nat) : Tuple :=
  positions.map fun p => row[p]?.getD .null

end ShardScan
