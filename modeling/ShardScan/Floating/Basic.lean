import ShardScan.Word

/-!
# Binary floating-point numbers

A floating-point number is kept as its IEEE 754 bit pattern, so that two of
them are equal exactly when they are the same pattern.  Arithmetic reads the
pattern as a rational number, computes exactly and rounds once, to the nearest
number of the format, a tie going to the even significand.

## Main definitions

* `FloatFormat`, `Floating` — a format and the numbers in it.
* `Floating.nearest` — the number of the format nearest to a ratio.
* `Floating.cmp` — the numeric order, in which a NaN has no place.
-/

namespace ShardScan

/-- A binary interchange format: the widths of its exponent and of its fraction. -/
structure FloatFormat where
  exponentBits : Nat
  fractionBits : Nat
deriving DecidableEq

namespace FloatFormat

/-- Single precision. -/
def binary32 : FloatFormat := ⟨8, 23⟩
/-- Double precision. -/
def binary64 : FloatFormat := ⟨11, 52⟩

/-- The word that holds a number: sign, exponent and fraction. -/
def word (f : FloatFormat) : WordFormat := ⟨false, (1 + f.exponentBits + f.fractionBits) / 8⟩

/-- The weight of the sign bit. -/
def signWeight (f : FloatFormat) : Nat := Nat.pow 2 (f.exponentBits + f.fractionBits)

/-- The weight of the lowest exponent bit, which is the leading bit of a significand. -/
def hiddenBit (f : FloatFormat) : Nat := Nat.pow 2 f.fractionBits

/-- The pattern of infinity; those of the NaNs lie above it. -/
def infinity (f : FloatFormat) : Nat := (Nat.pow 2 f.exponentBits - 1) * f.hiddenBit

/-- The exponent of the least positive number. -/
def leastExponent (f : FloatFormat) : Int :=
  2 - (Nat.pow 2 (f.exponentBits - 1) : Nat) - (f.fractionBits : Int)

end FloatFormat

/-- A floating-point number, as its bit pattern. -/
structure Floating (f : FloatFormat) where
  pattern : Word f.word
deriving DecidableEq

namespace Floating

variable {f : FloatFormat}

/-- The number with the given pattern. -/
def ofBits (f : FloatFormat) (bits : Nat) : Floating f := ⟨Word.ofResidue f.word bits⟩

/-- The pattern as a natural number. -/
def bits (x : Floating f) : Nat := x.pattern.residue

/-- The sign bit is set. -/
def negative (x : Floating f) : Bool := f.signWeight ≤ x.bits

/-- The pattern without its sign bit.  It grows with the absolute value of the number. -/
def magnitude (x : Floating f) : Nat := x.bits % f.signWeight

def isNaN (x : Floating f) : Bool := f.infinity < x.magnitude
def isInfinite (x : Floating f) : Bool := x.magnitude == f.infinity
def isFinite (x : Floating f) : Bool := x.magnitude < f.infinity
def isZero (x : Floating f) : Bool := x.magnitude == 0

/-- The quiet NaN that an invalid operation yields. -/
def nan (f : FloatFormat) : Floating f := ofBits f (f.infinity + f.hiddenBit / 2)

/-- The number with a sign and a magnitude. -/
def ofMagnitude (f : FloatFormat) (negative : Bool) (magnitude : Nat) : Floating f :=
  ofBits f (if negative then f.signWeight + magnitude else magnitude)

/-- A finite number is its significand times two to its exponent. -/
def significand (x : Floating f) : Nat :=
  if x.magnitude < f.hiddenBit then x.magnitude
  else f.hiddenBit + x.magnitude % f.hiddenBit

/-- The power of two that scales the significand. -/
def exponent (x : Floating f) : Int :=
  f.leastExponent + ((x.magnitude / f.hiddenBit - 1 : Nat) : Int)

/-- Numerator and denominator of the absolute value of a finite number. -/
def ratio (x : Floating f) : Nat × Nat :=
  if x.exponent < 0 then (x.significand, Nat.pow 2 (-x.exponent).toNat)
  else (x.significand * Nat.pow 2 x.exponent.toNat, 1)

/-! ### Rounding -/

/-- The whole number nearest to `num / den`, a tie going to the even one. -/
def divideToEven (num den : Nat) : Nat :=
  let q := num / den
  let r := num % den
  if 2 * r < den then q
  else if den < 2 * r then q + 1
  else q + q % 2

/-- The greatest `e` with `2 ^ e ≤ num / den`, for positive `num` and `den`. -/
def log2Ratio (num den : Nat) : Int :=
  let e : Int := (Nat.log2 num : Int) - (Nat.log2 den : Int)
  if num * Nat.pow 2 (-e).toNat < den * Nat.pow 2 e.toNat then e - 1 else e

/-- The number nearest to `num / den` with the given sign; infinity past the greatest number. -/
def nearest (f : FloatFormat) (negative : Bool) (num den : Nat) : Floating f :=
  if num = 0 then ofMagnitude f negative 0
  else
    let e := max (log2Ratio num den - (f.fractionBits : Int)) f.leastExponent
    let m := divideToEven (num * Nat.pow 2 (-e).toNat) (den * Nat.pow 2 e.toNat)
    let magnitude := (e - f.leastExponent).toNat * f.hiddenBit + m
    ofMagnitude f negative (min magnitude f.infinity)

/-- The number nearest to an integer. -/
def ofInt (f : FloatFormat) (n : Int) : Floating f := nearest f (n < 0) n.natAbs 1

/-- The number of another format nearest to `x`. -/
def convert (g : FloatFormat) (x : Floating f) : Floating g :=
  if x.isNaN then nan g
  else if x.isInfinite then ofMagnitude g x.negative g.infinity
  else nearest g x.negative x.ratio.1 x.ratio.2

/-! ### Arithmetic -/

/-- The rounded product. -/
def mul (x y : Floating f) : Floating f :=
  let negative := x.negative != y.negative
  if x.isNaN || y.isNaN then nan f
  else if x.isInfinite || y.isInfinite then
    if x.isZero || y.isZero then nan f else ofMagnitude f negative f.infinity
  else nearest f negative (x.ratio.1 * y.ratio.1) (x.ratio.2 * y.ratio.2)

/-- The rounded quotient. -/
def div (x y : Floating f) : Floating f :=
  let negative := x.negative != y.negative
  if x.isNaN || y.isNaN then nan f
  else if x.isInfinite then
    if y.isInfinite then nan f else ofMagnitude f negative f.infinity
  else if y.isInfinite then ofMagnitude f negative 0
  else if y.isZero then
    if x.isZero then nan f else ofMagnitude f negative f.infinity
  else nearest f negative (x.ratio.1 * y.ratio.2) (x.ratio.2 * y.ratio.1)

/-- `acc` times `x` to the power `n`, by repeated squaring with every product rounded. -/
def mulPow (acc x : Floating f) (n : Nat) : Floating f :=
  let acc := if n % 2 = 1 then acc.mul x else acc
  if n / 2 = 0 then acc else mulPow acc (x.mul x) (n / 2)
termination_by n

/-- `x` to an integer power; a negative power is the reciprocal of the positive one. -/
def pow (x : Floating f) (n : Int) : Floating f :=
  let r := mulPow (ofInt f 1) x n.natAbs
  if n < 0 then (ofInt f 1).div r else r

/-! ### Order -/

/-- The magnitude with its sign, which orders the numbers other than NaN. -/
def signedMagnitude (x : Floating f) : Int :=
  if x.negative then -(x.magnitude : Int) else x.magnitude

/-- The numeric order; `none` if either side is NaN.  The two zeros are equal. -/
def cmp (x y : Floating f) : Option Ordering :=
  if x.isNaN || y.isNaN then none else some (compare x.signedMagnitude y.signedMagnitude)

end Floating

/-- Single precision numbers. -/
abbrev Binary32 := Floating .binary32
/-- Double precision numbers. -/
abbrev Binary64 := Floating .binary64

end ShardScan
