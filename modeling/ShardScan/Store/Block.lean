import ShardScan.Value.Basic

/-!
# Result blocks

The rows that one message of a streaming read carries.  A block names its own
columns, and their order may differ from one block of a stream to the next.
-/

namespace ShardScan

/-- Rows under named columns. -/
structure Block where
  columns : List String
  rows : List Tuple
deriving DecidableEq

namespace Block

/-- The position of the first column of a name. -/
def columnIndex? (b : Block) (name : String) : Option Nat :=
  b.columns.findIdx? fun c => c == name

/-- A row. -/
def row? (b : Block) (row : Nat) : Option Tuple := b.rows[row]?

/-- The value in a row and a column. -/
def value? (b : Block) (row column : Nat) : Option Value :=
  (b.row? row).bind fun r => r[column]?

end Block
end ShardScan
