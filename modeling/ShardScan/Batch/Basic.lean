import ShardScan.Batch.Error

/-!
# Record batches

Rows turned into typed columns.  A column holds values of the one kind that its
type stands for, and NULL.

## Main definitions

* `EngineType.hold?` — a value as a cell of a column.
* `RecordBatch.ofRows` — the batch of some rows.
-/

namespace ShardScan

/-- A column of a batch. -/
structure BatchColumn where
  type : EngineType
  cells : List Scalar
deriving DecidableEq

namespace BatchColumn

/-- The number of NULLs. -/
def nullCount (c : BatchColumn) : Nat := c.cells.countP Scalar.isNull

end BatchColumn

/-- Rows as columns.  A batch without columns has rows all the same. -/
structure RecordBatch where
  rowCount : Nat
  columns : List BatchColumn
deriving DecidableEq

namespace EngineType

/-- Columns of the type can be built; a decimal type may still have a bad precision or scale. -/
def isSupported : EngineType → Bool
  | null => true
  | boolean => true
  | int _ => true
  | float32 => true
  | float64 => true
  | date32 => true
  | duration .microsecond => true
  | timestamp .microsecond _ => true
  | decimal128 _ _ => true
  | utf8 => true
  | binary => true
  | _ => false

/-- What is wrong with the arguments of a type. -/
def fault? : EngineType → Option DecimalFault
  | decimal128 precision scale => DecimalFault.of? precision.val scale.val
  | _ => none

/-- The value as a cell of a column.  A column of nulls turns everything into NULL, and a decimal
takes precision and scale from its column. -/
def hold? : EngineType → Scalar → Option Scalar
  | null, _ => some .null
  | _, .null => some .null
  | boolean, .boolean b => some (.boolean b)
  | int kind, .int kind' n => if kind = kind' then some (.int kind' n) else none
  | float32, .float32 x => some (.float32 x)
  | float64, .float64 x => some (.float64 x)
  | date32, .date days => some (.date days)
  | duration .microsecond, .duration micros => some (.duration micros)
  | timestamp .microsecond _, .timestamp micros => some (.timestamp micros)
  | decimal128 precision scale, .decimal unscaled _ _ => some (.decimal unscaled precision scale)
  | utf8, .utf8 s => some (.utf8 s)
  | binary, .binary b => some (.binary b)
  | _, _ => none

end EngineType

namespace Field

/-- The cells of a column of the field. -/
def cells (f : Field) : List Scalar → Except BatchError (List Scalar)
  | [] => .ok []
  | v :: rest =>
    match f.type.hold? v with
    | none => .error (.cannotHold f.name f.type v)
    | some cell => (f.cells rest).map (cell :: ·)

/-- The column of the field that holds some values. -/
def column (f : Field) (values : List Scalar) : Except BatchError BatchColumn :=
  if f.type.isSupported then
    match f.type.fault? with
    | some fault => .error (.decimal fault)
    | none => (f.cells values).map (⟨f.type, ·⟩)
  else .error (.unsupportedType f.name f.type)

/-- The column has a NULL that the field does not admit.  A column of nulls admits them always. -/
def refusesNull (f : Field) (c : BatchColumn) : Bool :=
  !f.nullable && f.type ≠ .null && 0 < c.nullCount

end Field

namespace RecordBatch

/-- The columns of some fields: the first field takes the first value of every row, and so on. -/
def columnsOf : List Field → List (List Scalar) → Except BatchError (List BatchColumn)
  | [], _ => .ok []
  | f :: rest, rows => do
    let column ← f.column (rows.map fun row => row.headD .null)
    return column :: (← columnsOf rest (rows.map List.tail))

/-- The batch of some rows laid out like the fields of a schema. -/
def ofRows (schema : Schema) (rows : List (List Scalar)) : Except BatchError RecordBatch :=
  let width := schema.fields.length
  if width = 0 then .ok ⟨rows.length, []⟩
  else
    match rows.find? fun row => row.length != width with
    | some row => .error (.rowWidth row.length width)
    | none => do
      let columns ← columnsOf schema.fields rows
      match (schema.fields.zip columns).find? fun (f, c) => f.refusesNull c with
      | some (f, _) => .error (.nullInRequired f.name)
      | none => return ⟨rows.length, columns⟩

end RecordBatch
end ShardScan
