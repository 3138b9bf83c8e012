import ShardScan.IntKind

/-!
# Store column types

The declared type of a column in the store.  Any type can be made optional;
an optional column may hold NULL.

## Main definitions

* `StoreType.orNull` — the type with NULL admitted.
* `StoreType.base` — the type below every optional layer.
-/

namespace ShardScan

/-- The declared type of a store column. -/
inductive StoreType
  | bool
  | int (kind : IntKind)
  | float
  | double
  | decimal (precision : Word .u8) (scale : Word .i8)
  /-- Raw byte strings. -/
  | bytes
  /-- UTF-8 text. -/
  | text
  /-- Days since 1970. -/
  | date
  /-- Seconds since 1970. -/
  | datetime
  /-- Microseconds since 1970. -/
  | timestamp
  /-- Signed microseconds. -/
  | interval
  | uuid
  | optional (inner : StoreType)
deriving DecidableEq

namespace StoreType

/-- The type outermost in which is an optional layer. -/
def isOptional : StoreType → Bool
  | optional _ => true
  | _ => false

/-- The type that admits NULL beside the values of `t`; an optional type is left as it is. -/
def orNull (t : StoreType) : StoreType := if t.isOptional then t else optional t

/-- The type without its optional layers. -/
def base : StoreType → StoreType
  | optional inner => inner.base
  | t => t

/-- The number of optional layers. -/
def layers : StoreType → Nat
  | optional inner => inner.layers + 1
  | _ => 0

@[simp]
theorem orNull_optional (t : StoreType) : (optional t).orNull = optional t := rfl

@[simp]
theorem isOptional_orNull (t : StoreType) : t.orNull.isOptional = true := by
  cases t <;> rfl

@[simp]
theorem orNull_orNull (t : StoreType) : t.orNull.orNull = t.orNull := by
  cases t <;> rfl

@[simp]
theorem base_orNull (t : StoreType) : t.orNull.base = t.base := by
  cases t <;> rfl

@[simp]
theorem isOptional_base (t : StoreType) : t.base.isOptional = false := by
  induction t <;> simp_all [base, isOptional]

end StoreType
end ShardScan
