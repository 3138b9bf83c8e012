import ShardScan.EngineType.Basic
import ShardScan.Text.Affix
import ShardScan.Text.Quoted

/-!
# Names of engine types

The written form of an engine type: its name, with the arguments in
parentheses and a nested field spelled out in full.  The types without fields
are also read back from it.

## Main definitions

* `EngineType.name` — the written form.
* `EngineType.ofName?` — the type without fields that a text names.
-/

namespace ShardScan

namespace TimeUnit

def name : TimeUnit → String
  | second => "Second"
  | millisecond => "Millisecond"
  | microsecond => "Microsecond"
  | nanosecond => "Nanosecond"

/-- The units from coarse to fine. -/
def all : List TimeUnit := [second, millisecond, microsecond, nanosecond]

end TimeUnit

namespace IntervalUnit

def name : IntervalUnit → String
  | yearMonth => "YearMonth"
  | dayTime => "DayTime"
  | monthDayNano => "MonthDayNano"

def all : List IntervalUnit := [yearMonth, dayTime, monthDayNano]

end IntervalUnit

namespace UnionMode

def name : UnionMode → String
  | sparse => "Sparse"
  | dense => "Dense"

def all : List UnionMode := [sparse, dense]

end UnionMode

namespace EngineType

/-- An optional text, as it stands among the arguments of a type. -/
def zoneText : Option String → String
  | none => "None"
  | some zone => "Some(" ++ Text.quoted zone ++ ")"

/-- A boolean as a word. -/
def flagText (b : Bool) : String := if b then "true" else "false"

end EngineType

mutual

/-- The written form of a type. -/
def EngineType.name : EngineType → String
  | .null => "Null"
  | .boolean => "Boolean"
  | .int kind => kind.engineName
  | .float16 => "Float16"
  | .float32 => "Float32"
  | .float64 => "Float64"
  | .timestamp unit zone => "Timestamp(" ++ unit.name ++ ", " ++ EngineType.zoneText zone ++ ")"
  | .date32 => "Date32"
  | .date64 => "Date64"
  | .time32 unit => "Time32(" ++ unit.name ++ ")"
  | .time64 unit => "Time64(" ++ unit.name ++ ")"
  | .duration unit => "Duration(" ++ unit.name ++ ")"
  | .interval unit => "Interval(" ++ unit.name ++ ")"
  | .binary => "Binary"
  | .fixedSizeBinary size => "FixedSizeBinary(" ++ toString size.val ++ ")"
  | .largeBinary => "LargeBinary"
  | .binaryView => "BinaryView"
  | .utf8 => "Utf8"
  | .largeUtf8 => "LargeUtf8"
  | .utf8View => "Utf8View"
  | .list item => "List(" ++ item.text ++ ")"
  | .listView item => "ListView(" ++ item.text ++ ")"
  | .fixedSizeList item size => "FixedSizeList(" ++ item.text ++ ", " ++ toString size.val ++ ")"
  | .largeList item => "LargeList(" ++ item.text ++ ")"
  | .largeListView item => "LargeListView(" ++ item.text ++ ")"
  | .struct members => "Struct([" ++ String.intercalate ", " members.texts ++ "])"
  | .union alternatives mode =>
    "Union([" ++ String.intercalate ", " alternatives.texts ++ "], " ++ mode.name ++ ")"
  | .dictionary key value => "Dictionary(" ++ key.name ++ ", " ++ value.name ++ ")"
  | .decimal128 precision scale =>
    "Decimal128(" ++ toString precision.val ++ ", " ++ toString scale.val ++ ")"
  | .decimal256 precision scale =>
    "Decimal256(" ++ toString precision.val ++ ", " ++ toString scale.val ++ ")"
  | .map entry sorted => "Map(" ++ entry.text ++ ", " ++ EngineType.flagText sorted ++ ")"
  | .runEndEncoded ends values => "RunEndEncoded(" ++ ends.text ++ ", " ++ values.text ++ ")"

/-- The written form of a field inside a nested type. -/
def Field.text : Field → String
  | ⟨name, type, nullable, dictionaryId, dictionaryOrdered, metadata⟩ =>
    "Field \x7b name: " ++ Text.quoted name ++ ", data_type: " ++ type.name ++
      ", nullable: " ++ EngineType.flagText nullable ++
      ", dict_id: " ++ toString dictionaryId.val ++
      ", dict_is_ordered: " ++ EngineType.flagText dictionaryOrdered ++
      ", metadata: " ++ Text.quotedEntries metadata ++ " \x7d"

/-- The written forms of the fields of a struct. -/
def FieldList.texts : FieldList → List String
  | .nil => []
  | .cons field rest => field.text :: rest.texts

/-- The written forms of the fields of a union, with their tags. -/
def TaggedFieldList.texts : TaggedFieldList → List String
  | .nil => []
  | .cons tag field rest => ("(" ++ toString tag.val ++ ", " ++ field.text ++ ")") :: rest.texts

end

namespace EngineType

/-! ### Reading -/

/-- The types without arguments. -/
def plainTypes : List EngineType :=
  IntKind.all.map .int ++
  [.null, .boolean, .float16, .float32, .float64, .date32, .date64, .binary, .largeBinary,
    .binaryView, .utf8, .largeUtf8, .utf8View]

/-- The types with a time unit as their only argument. -/
def unitTypes : List EngineType :=
  TimeUnit.all.flatMap (fun u => [.time32 u, .time64 u, .duration u, .timestamp u none]) ++
  IntervalUnit.all.map .interval

/-- Two numbers with a comma and a space between them. -/
def decimalArguments? (s : List Char) : Option (Word .u8 × Word .i8) := do
  let (precision, rest) ← Text.cutAt? ',' s
  let scale ← Text.after? [' '] rest
  return (← Word.ofText? .u8 precision, ← Word.ofText? .i8 scale)

/-- The argument between `opening` and a closing parenthesis. -/
def argument? (opening : String) (s : List Char) : Option (List Char) :=
  (Text.after? opening.toList s).bind (Text.before? ')')

/-- A timestamp with a time zone. -/
def zonedTimestamp? (s : List Char) : Option EngineType :=
  TimeUnit.all.findSome? fun unit => do
    let zone ← argument? ("Timestamp(" ++ unit.name ++ ", Some(\"") s
    let zone ← (Text.before? ')' zone).bind (Text.before? '"')
    return .timestamp unit (some (String.ofList zone))

/-- The type without fields that a text names. -/
def ofName? (s : String) : Option EngineType :=
  let t := s.toList
  (plainTypes ++ unitTypes).find? (fun type => type.name == s)
    <|> ((argument? "FixedSizeBinary(" t).bind (Word.ofText? .i32)).map .fixedSizeBinary
    <|> ((argument? "Decimal128(" t).bind decimalArguments?).map (fun (p, c) => .decimal128 p c)
    <|> ((argument? "Decimal256(" t).bind decimalArguments?).map (fun (p, c) => .decimal256 p c)
    <|> zonedTimestamp? t

end EngineType
end ShardScan
