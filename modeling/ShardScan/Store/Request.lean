import ShardScan.KeyRange
import ShardScan.Word

/-!
# Range reads

What a client asks of a streaming read of one table: columns, key bounds, a
limit on the rows, the order and a time limit.
-/

namespace ShardScan

/-- One side of the keys to read. -/
structure RequestBound where
  key : Tuple
  inclusive : Bool
deriving DecidableEq

/-- A range read of one table. -/
structure ReadRequest where
  columns : List String
  lower : Option RequestBound
  upper : Option RequestBound
  rowLimit : Option (Word .u64)
  ordered : Bool
  timeoutSeconds : Word .u64
deriving DecidableEq

namespace RequestBound

/-- The bound at a key; an empty key leaves the side open. -/
def of? (key : Tuple) (inclusive : Bool) : Option RequestBound :=
  if key.isEmpty then none else some ⟨key, inclusive⟩

/-- What a side of a request admits. -/
def toKeyBound : Option RequestBound → KeyBound
  | none => .all
  | some b => .ofTuple b.key b.inclusive

end RequestBound

namespace ReadRequest

/-- An ordered read of no columns, of all rows, within a minute. -/
def start : ReadRequest := ⟨[], none, none, none, true, 60⟩

/-- Asks for further columns. -/
def addColumns (r : ReadRequest) (names : List String) : ReadRequest :=
  { r with columns := r.columns ++ names }

/-- Sets the lower side; an empty key leaves it open. -/
def setLower (r : ReadRequest) (key : Tuple) (inclusive : Bool) : ReadRequest :=
  { r with lower := RequestBound.of? key inclusive }

/-- Sets the upper side; an empty key leaves it open. -/
def setUpper (r : ReadRequest) (key : Tuple) (inclusive : Bool) : ReadRequest :=
  { r with upper := RequestBound.of? key inclusive }

/-- Sets the limit on the rows; zero lifts it. -/
def setLimit (r : ReadRequest) (limit : Word .u64) : ReadRequest :=
  { r with rowLimit := if 0 < limit.val then some limit else none }

/-- The keys that a request admits. -/
def range (r : ReadRequest) : KeyRange :=
  ⟨RequestBound.toKeyBound r.lower, RequestBound.toKeyBound r.upper⟩

end ReadRequest
end ShardScan
