import ShardScan.Dict
import ShardScan.IntKind

/-!
# Engine column types

The types of the engine's columnar batches, with the fields and schemas built
from them.  Nested types hold fields, so types, fields and field lists are
defined together.

## Main definitions

* `EngineType`, `Field`, `Schema` — a column type, a named column, and the columns of a batch.
-/

namespace ShardScan

/-- The unit of a time, a timestamp or a duration. -/
inductive TimeUnit
  | second | millisecond | microsecond | nanosecond
deriving DecidableEq

/-- The unit of a calendar interval. -/
inductive IntervalUnit
  | yearMonth | dayTime | monthDayNano
deriving DecidableEq

/-- Whether the alternatives of a union share their rows. -/
inductive UnionMode
  | sparse | dense
deriving DecidableEq

mutual

/-- The type of an engine column. -/
inductive EngineType
  | null
  | boolean
  | int (kind : IntKind)
  | float16
  | float32
  | float64
  | timestamp (unit : TimeUnit) (zone : Option String)
  | date32
  | date64
  | time32 (unit : TimeUnit)
  | time64 (unit : TimeUnit)
  | duration (unit : TimeUnit)
  | interval (unit : IntervalUnit)
  | binary
  | fixedSizeBinary (size : Word .i32)
  | largeBinary
  | binaryView
  | utf8
  | largeUtf8
  | utf8View
  | list (item : Field)
  | listView (item : Field)
  | fixedSizeList (item : Field) (size : Word .i32)
  | largeList (item : Field)
  | largeListView (item : Field)
  | struct (members : FieldList)
  | union (alternatives : TaggedFieldList) (mode : UnionMode)
  | dictionary (key value : EngineType)
  | decimal128 (precision : Word .u8) (scale : Word .i8)
  | decimal256 (precision : Word .u8) (scale : Word .i8)
  | map (entry : Field) (sorted : Bool)
  | runEndEncoded (ends values : Field)
deriving DecidableEq

/-- A named column: its type, whether it may hold NULL, how a dictionary behind it is identified,
and further facts about it. -/
structure Field where
  name : String
  type : EngineType
  nullable : Bool
  dictionaryId : Word .i64
  dictionaryOrdered : Bool
  metadata : Dict String
deriving DecidableEq

/-- The fields of a struct. -/
inductive FieldList
  | nil
  | cons (field : Field) (rest : FieldList)
deriving DecidableEq

/-- The fields of a union, each under its tag. -/
inductive TaggedFieldList
  | nil
  | cons (tag : Word .i8) (field : Field) (rest : TaggedFieldList)
deriving DecidableEq

end

namespace Field

/-- A field with nothing but a name, a type and nullability. -/
def plain (name : String) (type : EngineType) (nullable : Bool) : Field :=
  ⟨name, type, nullable, 0, false, .empty⟩

end Field

/-- The columns of a batch. -/
structure Schema where
  fields : List Field
  metadata : Dict String
deriving DecidableEq

namespace Schema

/-- A schema without metadata. -/
def ofFields (fields : List Field) : Schema := ⟨fields, .empty⟩

/-- The names of the columns. -/
def names (s : Schema) : List String := s.fields.map (·.name)

end Schema
end ShardScan
