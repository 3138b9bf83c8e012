import ShardScan.Text.Bytes
import ShardScan.Value.Basic

/-!
# The key order of the store

NULL lies before every value.  Integers of all widths compare as integers,
floating-point numbers as numbers with each other and with integers, bytes and
text as byte strings, and each of the other kinds within itself.  Key tuples
compare by the first position that differs, over the positions both have.

## Main definitions

* `Value.cmp` — the order of two values; none where their kinds do not compare.
* `compareKeys` — the order of two tuples on their common length.
-/

namespace ShardScan

/-- The order of `a` and `b * 10 ^ shift`.  Where the product is no 128-bit integer, the sign of `b`
decides. -/
def compareShifted (a b : Int) (shift : Nat) : Ordering :=
  match Word.ofInt? .i128 (b * Nat.pow 10 shift) with
  | some product => compare a product.val
  | none => compare 0 b

/-- The order of `a * 10 ^ -sa` and `b * 10 ^ -sb`.  While the scales differ by at most 38, the
number at the coarser one is brought to the other; beyond that, the quotients are compared in
double precision. -/
def compareDecimals (a sa b sb : Int) : Ordering :=
  if sa = sb then compare a b
  else if 38 < (sa - sb).natAbs then
    let ten := Floating.ofInt .binary64 10
    let x := (Floating.ofInt .binary64 a).div (ten.pow sa)
    let y := (Floating.ofInt .binary64 b).div (ten.pow sb)
    (x.cmp y).getD .eq
  else if sb < sa then compareShifted a b (sa - sb).natAbs
  else (compareShifted b a (sa - sb).natAbs).swap

namespace Value

/-- The integer that a value of an integer type is. -/
def integer? : Value → Option Int
  | int _ n => some n.val
  | _ => none

/-- The number in double precision that a value of a numeric type other than a decimal is. -/
def number? : Value → Option Binary64
  | float x => some (x.convert .binary64)
  | double x => some x
  | int _ n => some (Floating.ofInt .binary64 n.val)
  | _ => none

/-- The bytes of a byte string or a text. -/
def bytes? : Value → Option (List UInt8)
  | bytes b => some b
  | text s => some (Text.utf8 s)
  | _ => none

/-- The order of two values that are neither NULL nor optional. -/
def cmpContent : Value → Value → Option Ordering
  | bool a, bool b => some (compare a.toNat b.toNat)
  | decimal a _ sa, decimal b _ sb => some (compareDecimals a.val sa.val b.val sb.val)
  | date a, date b => some (a.cmp b)
  | datetime a, datetime b => some (a.cmp b)
  | timestamp a, timestamp b => some (a.cmp b)
  | interval a, interval b => some (a.cmp b)
  | uuid a, uuid b => some (a.cmp b)
  | a, b =>
    match a.integer?, b.integer? with
    | some m, some n => some (compare m n)
    | _, _ =>
      match a.number?, b.number? with
      | some x, some y => x.cmp y
      | _, _ =>
        match a.bytes?, b.bytes? with
        | some x, some y => some (Text.compareBytes x y)
        | _, _ => none

/-- The order of two values, NULL least; none where their kinds do not compare. -/
def cmp (a b : Value) : Option Ordering :=
  match a.content?, b.content? with
  | none, none => some .eq
  | none, some _ => some .lt
  | some _, none => some .gt
  | some a, some b => a.cmpContent b

end Value

/-- The order of two tuples over the positions that both have: that of the first pair of values
that differ.  A pair that does not compare counts as equal. -/
def compareKeys : Tuple → Tuple → Ordering
  | a :: as, b :: bs => ((a.cmp b).getD .eq).then (compareKeys as bs)
  | _, _ => .eq

@[simp] theorem compareKeys_nil_left (b : Tuple) : compareKeys [] b = .eq := rfl

@[simp]
theorem compareKeys_nil_right (a : Tuple) : compareKeys a [] = .eq := by
  cases a <;> rfl

@[simp]
theorem compareKeys_cons (a b : Value) (as bs : Tuple) :
    compareKeys (a :: as) (b :: bs) = ((a.cmp b).getD .eq).then (compareKeys as bs) := rfl

end ShardScan
