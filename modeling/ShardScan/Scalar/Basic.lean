import ShardScan.EngineType.Basic
import ShardScan.Json
import ShardScan.Text.Base64
import ShardScan.Text.Bytes

/-!
# Engine values

A single value on the engine's side: what rows handed to the engine are made
of and what the literals of pushed-down predicates carry.

## Main definitions

* `Scalar.type` — the engine type of a value.
* `Scalar.naturalCmp` — the engine's order, in which NULL has no place.
* `Scalar.agrees` — the equality that compares floating-point numbers as numbers.
-/

namespace ShardScan

/-- A value on the engine's side. -/
inductive Scalar
  | null
  | boolean (b : Bool)
  | int (kind : IntKind) (n : Word kind.format)
  | float32 (x : Binary32)
  | float64 (x : Binary64)
  /-- The number `unscaled * 10 ^ -scale`. -/
  | decimal (unscaled : Word .i128) (precision : Word .u8) (scale : Word .i8)
  | utf8 (s : String)
  | binary (b : List UInt8)
  /-- Days since 1970. -/
  | date (days : Word .i32)
  /-- Microseconds since 1970. -/
  | timestamp (micros : Word .i64)
  /-- Signed microseconds. -/
  | duration (micros : Word .i64)
deriving DecidableEq

namespace Scalar

def isNull : Scalar → Bool
  | null => true
  | _ => false

/-- The engine type of a value. -/
def type : Scalar → EngineType
  | null => .null
  | boolean _ => .boolean
  | int kind _ => .int kind
  | float32 _ => .float32
  | float64 _ => .float64
  | decimal _ precision scale => .decimal128 precision scale
  | utf8 _ => .utf8
  | binary _ => .binary
  | date _ => .date32
  | timestamp _ => .timestamp .microsecond none
  | duration _ => .duration .microsecond

/-- The text that a value is. -/
def text? : Scalar → Option String
  | utf8 s => some s
  | _ => none

/-- The integer that a value of an integer type is. -/
def integer? : Scalar → Option Int
  | int _ n => some n.val
  | _ => none

/-- The number in double precision that a numeric value is nearest to. -/
def number? : Scalar → Option Binary64
  | float32 x => some (x.convert .binary64)
  | float64 x => some x
  | decimal unscaled _ scale =>
    some ((Floating.ofInt .binary64 unscaled.val).div ((Floating.ofInt .binary64 10).pow scale.val))
  | int _ n => some (Floating.ofInt .binary64 n.val)
  | _ => none

/-- The engine's order.  Integers of all widths compare as integers, decimals of one scale exactly,
other numbers in double precision, and each of the other kinds within itself. -/
def naturalCmp : Scalar → Scalar → Option Ordering
  | null, _ => none
  | _, null => none
  | boolean a, boolean b => some (compare a.toNat b.toNat)
  | utf8 a, utf8 b => some (Text.compareText a b)
  | binary a, binary b => some (Text.compareBytes a b)
  | date a, date b => some (a.cmp b)
  | timestamp a, timestamp b => some (a.cmp b)
  | duration a, duration b => some (a.cmp b)
  | a, b =>
    match a, b with
    | decimal m _ sm, decimal n _ sn =>
      if sm = sn then some (m.cmp n) else (a.number?.bind fun x => b.number?.bind fun y => x.cmp y)
    | a, b =>
      match a.integer?, b.integer? with
      | some m, some n => some (compare m n)
      | _, _ => a.number?.bind fun x => b.number?.bind fun y => x.cmp y

/-- The values are equal, floating-point numbers as numbers: a NaN agrees with nothing and the two
zeros agree. -/
def agrees : Scalar → Scalar → Bool
  | float32 x, float32 y => x.cmp y == some .eq
  | float64 x, float64 y => x.cmp y == some .eq
  | a, b => a = b

end Scalar
end ShardScan
