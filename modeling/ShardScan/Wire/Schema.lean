import ShardScan.EngineType.Name
import ShardScan.Wire.Value

/-!
# The transport form of schemas

Engine types are numbered alternatives; nested ones hold fields.  The readers
take a bound on the depth, which the number of bytes is.
-/

namespace ShardScan
namespace Wire

/-- One of some alternatives, by its place. -/
def writePlace {α : Type} [DecidableEq α] (alternatives : List α) (a : α) : List UInt8 :=
  alternative (alternatives.idxOf a)

instance : Wire TimeUnit := ⟨writePlace TimeUnit.all, readAlternative TimeUnit.all⟩
instance : Wire IntervalUnit := ⟨writePlace IntervalUnit.all, readAlternative IntervalUnit.all⟩
instance : Wire UnionMode := ⟨writePlace UnionMode.all, readAlternative UnionMode.all⟩

/-- The number of fields of a struct. -/
def fieldCount : FieldList → Nat
  | .nil => 0
  | .cons _ rest => fieldCount rest + 1

/-- The number of fields of a union. -/
def taggedFieldCount : TaggedFieldList → Nat
  | .nil => 0
  | .cons _ _ rest => taggedFieldCount rest + 1

mutual

def writeEngineType : EngineType → List UInt8
  | .null => alternative 0
  | .boolean => alternative 1
  | .int kind => alternative (2 + kind.index)
  | .float16 => alternative 10
  | .float32 => alternative 11
  | .float64 => alternative 12
  | .timestamp unit zone => alternative 13 ++ write unit ++ write zone
  | .date32 => alternative 14
  | .date64 => alternative 15
  | .time32 unit => alternative 16 ++ write unit
  | .time64 unit => alternative 17 ++ write unit
  | .duration unit => alternative 18 ++ write unit
  | .interval unit => alternative 19 ++ write unit
  | .binary => alternative 20
  | .fixedSizeBinary size => alternative 21 ++ write size
  | .largeBinary => alternative 22
  | .binaryView => alternative 23
  | .utf8 => alternative 24
  | .largeUtf8 => alternative 25
  | .utf8View => alternative 26
  | .list item => alternative 27 ++ writeField item
  | .listView item => alternative 28 ++ writeField item
  | .fixedSizeList item size => alternative 29 ++ writeField item ++ write size
  | .largeList item => alternative 30 ++ writeField item
  | .largeListView item => alternative 31 ++ writeField item
  | .struct members => alternative 32 ++ writeCount 8 (fieldCount members) ++ writeFields members
  | .union alternatives mode =>
    alternative 33 ++ writeCount 8 (taggedFieldCount alternatives) ++
      writeTaggedFields alternatives ++ write mode
  | .dictionary key value => alternative 34 ++ writeEngineType key ++ writeEngineType value
  | .decimal128 precision scale => alternative 35 ++ write precision ++ write scale
  | .decimal256 precision scale => alternative 36 ++ write precision ++ write scale
  | .map entry sorted => alternative 37 ++ writeField entry ++ write sorted
  | .runEndEncoded ends values => alternative 38 ++ writeField ends ++ writeField values

def writeField : Field → List UInt8
  | ⟨name, type, nullable, dictionaryId, dictionaryOrdered, metadata⟩ =>
    write name ++ writeEngineType type ++ write nullable ++ write dictionaryId ++
      write dictionaryOrdered ++ write metadata

def writeFields : FieldList → List UInt8
  | .nil => []
  | .cons field rest => writeField field ++ writeFields rest

def writeTaggedFields : TaggedFieldList → List UInt8
  | .nil => []
  | .cons tag field rest => write tag ++ writeField field ++ writeTaggedFields rest

end

/-- A field whose type `type` reads. -/
def readFieldOf (type : WireReader EngineType) : WireReader Field := do
  return ⟨← read, ← type, ← read, ← read, ← read, ← read⟩

/-- A field that `field` reads, behind its tag. -/
def readTagged (field : WireReader Field) : WireReader (Word .i8 × Field) := do
  return (← read, ← field)

/-- The fields of a struct, from a list. -/
def fieldList : List Field → FieldList
  | [] => .nil
  | field :: rest => .cons field (fieldList rest)

/-- The fields of a union, from a list. -/
def taggedFieldList : List (Word .i8 × Field) → TaggedFieldList
  | [] => .nil
  | (tag, field) :: rest => .cons tag field (taggedFieldList rest)

/-- An engine type nested at most `depth` deep. -/
def readEngineType : Nat → WireReader EngineType
  | 0 => throw .ended
  | depth + 1 => do
    let type := readEngineType depth
    let field := readFieldOf type
    let n ← readCount 4
    match intKind? 2 n with
    | some kind => return .int kind
    | none =>
      match n with
      | 0 => return .null
      | 1 => return .boolean
      | 10 => return .float16
      | 11 => return .float32
      | 12 => return .float64
      | 13 => return .timestamp (← read) (← read)
      | 14 => return .date32
      | 15 => return .date64
      | 16 => return .time32 (← read)
      | 17 => return .time64 (← read)
      | 18 => return .duration (← read)
      | 19 => return .interval (← read)
      | 20 => return .binary
      | 21 => return .fixedSizeBinary (← read)
      | 22 => return .largeBinary
      | 23 => return .binaryView
      | 24 => return .utf8
      | 25 => return .largeUtf8
      | 26 => return .utf8View
      | 27 => return .list (← field)
      | 28 => return .listView (← field)
      | 29 => return .fixedSizeList (← field) (← read)
      | 30 => return .largeList (← field)
      | 31 => return .largeListView (← field)
      | 32 => return .struct (fieldList (← readList field))
      | 33 => return .union (taggedFieldList (← readList (readTagged field))) (← read)
      | 34 => return .dictionary (← type) (← type)
      | 35 => return .decimal128 (← read) (← read)
      | 36 => return .decimal256 (← read) (← read)
      | 37 => return .map (← field) (← read)
      | 38 => return .runEndEncoded (← field) (← field)
      | _ => throw .unknownAlternative

instance : Wire EngineType where
  write := writeEngineType
  read := do readEngineType (← get).length.succ

instance : Wire Field where
  write := writeField
  read := readFieldOf read

instance : Wire Schema where
  write s := write s.fields ++ write s.metadata
  read := do return ⟨← read, ← read⟩

end Wire
end ShardScan
