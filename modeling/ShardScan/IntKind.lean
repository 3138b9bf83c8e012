import ShardScan.Word

/-!
# Kinds of integer

The eight integer types that columns and values come in.
-/

namespace ShardScan

/-- The integer types of columns, by width and sign. -/
inductive IntKind
  | int8 | int16 | int32 | int64 | uint8 | uint16 | uint32 | uint64
deriving DecidableEq

namespace IntKind

/-- The words of an integer type. -/
@[reducible]
def format : IntKind → WordFormat
  | int8 => .i8
  | int16 => .i16
  | int32 => .i32
  | int64 => .i64
  | uint8 => .u8
  | uint16 => .u16
  | uint32 => .u32
  | uint64 => .u64

/-- Every kind, signed before unsigned and narrow before wide. -/
def all : List IntKind := [int8, int16, int32, int64, uint8, uint16, uint32, uint64]

/-- The place of a kind in `all`. -/
def index : IntKind → Nat
  | int8 => 0
  | int16 => 1
  | int32 => 2
  | int64 => 3
  | uint8 => 4
  | uint16 => 5
  | uint32 => 6
  | uint64 => 7

theorem all_getElem?_index (k : IntKind) : all[k.index]? = some k := by
  cases k <;> rfl

/-- The name a store column has its type by. -/
def storeName : IntKind → String
  | int8 => "Int8"
  | int16 => "Int16"
  | int32 => "Int32"
  | int64 => "Int64"
  | uint8 => "Uint8"
  | uint16 => "Uint16"
  | uint32 => "Uint32"
  | uint64 => "Uint64"

/-- The name an engine column has its type by. -/
def engineName : IntKind → String
  | int8 => "Int8"
  | int16 => "Int16"
  | int32 => "Int32"
  | int64 => "Int64"
  | uint8 => "UInt8"
  | uint16 => "UInt16"
  | uint32 => "UInt32"
  | uint64 => "UInt64"

end IntKind
end ShardScan
