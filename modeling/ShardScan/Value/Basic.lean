import ShardScan.Floating.Basic
import ShardScan.IntKind

/-!
# Store values

A value as the store holds it: one of the store's primitive types, under any
number of optional layers, or NULL.  Two values are equal when they are the
same in every bit.

## Main definitions

* `Value.content?` — the value below the optional layers; none for NULL.
* `Value.orNull` — the value as one that could have been NULL.
* `Value.agrees` — the equality that compares floating-point numbers as numbers.
-/

namespace ShardScan

/-- A value as the store holds it. -/
inductive Value
  | null
  /-- A value that could have been NULL. -/
  | optional (inner : Value)
  | bool (b : Bool)
  | int (kind : IntKind) (n : Word kind.format)
  | float (x : Binary32)
  | double (x : Binary64)
  /-- The number `unscaled * 10 ^ -scale`. -/
  | decimal (unscaled : Word .i128) (precision : Word .u8) (scale : Word .i8)
  | bytes (b : List UInt8)
  | text (s : String)
  /-- Days since 1970. -/
  | date (days : Word .i32)
  /-- Seconds since 1970. -/
  | datetime (seconds : Word .u32)
  /-- Microseconds since 1970. -/
  | timestamp (micros : Word .i64)
  /-- Signed microseconds. -/
  | interval (micros : Word .i64)
  | uuid (n : Word .u128)
deriving DecidableEq

namespace Value

/-- The value below every optional layer; none for NULL. -/
def content? : Value → Option Value
  | null => none
  | optional inner => inner.content?
  | v => some v

/-- There is nothing below the optional layers. -/
def isNull (v : Value) : Bool := v.content?.isNone

/-- The value could have been NULL. -/
def isOptional : Value → Bool
  | null => true
  | optional _ => true
  | _ => false

/-- The value under an optional layer, unless it has one. -/
def orNull (v : Value) : Value := if v.isOptional then v else optional v

@[simp]
theorem content?_optional (v : Value) : (optional v).content? = v.content? := rfl

@[simp]
theorem content?_orNull (v : Value) : v.orNull.content? = v.content? := by
  cases v <;> rfl

@[simp]
theorem isOptional_orNull (v : Value) : v.orNull.isOptional = true := by
  cases v <;> rfl

/-- The values are equal, floating-point numbers as numbers: a NaN agrees with nothing and the two
zeros agree. -/
def agrees : Value → Value → Bool
  | optional a, optional b => a.agrees b
  | float x, float y => x.cmp y == some .eq
  | double x, double y => x.cmp y == some .eq
  | a, b => a = b

end Value

/-- A tuple of values: a row, or the key of one. -/
abbrev Tuple := List Value

/-- The tuples agree in length and in every value. -/
def Tuple.agrees (a b : Tuple) : Bool :=
  a.length == b.length && (a.zip b).all fun (x, y) => x.agrees y

end ShardScan
