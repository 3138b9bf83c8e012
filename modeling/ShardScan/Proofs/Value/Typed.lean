import ShardScan.StoreType.Basic
import ShardScan.Value.Order

/-!
# Values of a type

The values that a column of a declared type holds: NULL, or a value of the type
below its optional layers.

## Main definitions

* `Value.HasType` — a value that is not optional is of a type that is not.
* `StoreType.Admits` — NULL or a value of the type, under any number of optional layers.
-/

namespace ShardScan

/-- A value without optional layers is one of a type without them. -/
inductive Value.HasType : Value → StoreType → Prop
  | bool (b : Bool) : HasType (.bool b) .bool
  | int (kind : IntKind) (n : Word kind.format) : HasType (.int kind n) (.int kind)
  | float (x : Binary32) : HasType (.float x) .float
  | double (x : Binary64) : HasType (.double x) .double
  | decimal (unscaled : Word .i128) (precision : Word .u8) (scale : Word .i8) :
    HasType (.decimal unscaled precision scale) (.decimal precision scale)
  | bytes (b : List UInt8) : HasType (.bytes b) .bytes
  | text (s : String) : HasType (.text s) .text
  | date (days : Word .i32) : HasType (.date days) .date
  | datetime (seconds : Word .u32) : HasType (.datetime seconds) .datetime
  | timestamp (micros : Word .i64) : HasType (.timestamp micros) .timestamp
  | interval (micros : Word .i64) : HasType (.interval micros) .interval
  | uuid (n : Word .u128) : HasType (.uuid n) .uuid

/-- The value is NULL or, below optional layers, one of the type below its own. -/
def StoreType.Admits (t : StoreType) (v : Value) : Prop := ∀ c ∈ v.content?, c.HasType t.base

namespace StoreType

@[simp] theorem admits_null (t : StoreType) : t.Admits .null := nofun

@[simp] theorem base_base (t : StoreType) : t.base.base = t.base := by
  induction t with
  | optional inner ih => exact ih
  | _ => rfl

end StoreType

namespace Value

/-- A value of a type is its own content. -/
theorem HasType.content?_eq {c : Value} {t : StoreType} (h : c.HasType t) :
    c.content? = some c := by
  cases h <;> rfl

end Value
end ShardScan
