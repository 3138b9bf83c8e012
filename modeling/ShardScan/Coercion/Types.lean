import ShardScan.Coercion.Error

/-!
# Column types across the border

The engine type that a store column is read as, and the store type that an
engine column is stored in.
-/

namespace ShardScan

namespace StoreType

/-- The engine type that values of a store type are read as. -/
def toEngine : StoreType → EngineType
  | bool => .boolean
  | int kind => .int kind
  | float => .float32
  | double => .float64
  | decimal precision scale => .decimal128 precision scale
  | bytes => .binary
  | text => .utf8
  | uuid => .utf8
  | date => .date32
  | datetime => .timestamp .microsecond none
  | timestamp => .timestamp .microsecond none
  | interval => .duration .microsecond
  | optional inner => inner.toEngine

end StoreType

namespace EngineType

/-- The store type for columns of an engine type. -/
def toStore : EngineType → Except CoercionError StoreType
  | boolean => .ok .bool
  | int kind => .ok (.int kind)
  | float32 => .ok .float
  | float64 => .ok .double
  | decimal128 precision scale => .ok (.decimal precision scale)
  | binary => .ok .bytes
  | largeBinary => .ok .bytes
  | utf8 => .ok .text
  | largeUtf8 => .ok .text
  | date32 => .ok .date
  | timestamp _ _ => .ok .timestamp
  | duration _ => .ok .interval
  | type => .error (.unsupportedEngineType type)

end EngineType
end ShardScan
