import ShardScan.Floating.Basic

/-!
# The shortest decimal that reads back

A floating-point number stands for every real number that rounds to it: those
between the midpoints to its two neighbours, the midpoints themselves included
when its significand is even.  Its shortest decimal is found on ever finer
decimal grids: on each one only the two grid points beside the number can be
in that interval, the first grid with a point in it gives the fewest digits,
and of two points the nearer is taken.

## Main definitions

* `Floating.shortest` — the digits and the decimal exponent of that decimal.
* `FloatStyle`, `Floating.text` — the ways of writing it down.
-/

namespace ShardScan
namespace Floating

variable {f : FloatFormat}

/-- The reals that round to a number, as `low`, `value` and `high` in units of `num / den`. -/
structure Neighbourhood where
  low : Nat
  value : Nat
  high : Nat
  /-- Whether the ends round to the number too. -/
  closed : Bool
  num : Nat
  den : Nat

/-- The neighbourhood of a positive finite number, in quarters of its last place.  Below a power of
two the numbers are twice as dense. -/
def neighbourhood (x : Floating f) : Neighbourhood :=
  let m := x.significand
  let e := x.exponent - 2
  { low := 4 * m - (if m = f.hiddenBit then 1 else 2)
    value := 4 * m
    high := 4 * m + 2
    closed := m % 2 == 0
    num := Nat.pow 2 e.toNat
    den := Nat.pow 2 (-e).toNat }

namespace Neighbourhood

/-- `c * 10 ^ t` lies in the neighbourhood. -/
def holds (n : Neighbourhood) (c : Nat) (t : Int) : Bool :=
  let point := c * Nat.pow 10 t.toNat * n.den
  let unit := n.num * Nat.pow 10 (-t).toNat
  if n.closed then n.low * unit ≤ point && point ≤ n.high * unit
  else n.low * unit < point && point < n.high * unit

/-- The point of the grid `10 ^ t` in the neighbourhood, the nearer if both beside the value are. -/
def onGrid (n : Neighbourhood) (t : Int) : Option Nat :=
  let unit := n.num * Nat.pow 10 (-t).toNat
  let step := Nat.pow 10 t.toNat * n.den
  let c := n.value * unit / step
  match n.holds c t, n.holds (c + 1) t with
  | true, true => some (if 2 * (n.value * unit % step) < step then c else c + 1)
  | true, false => some c
  | false, true => some (c + 1)
  | false, false => none

/-- The first point found on the grids `10 ^ t`, `10 ^ (t - 1)`, and so on for `fuel` steps. -/
def search (n : Neighbourhood) : Nat → Int → Nat × Int
  | 0, t => (n.value, t)
  | fuel + 1, t =>
    match n.onGrid t with
    | some c => (c, t)
    | none => n.search fuel (t - 1)

end Neighbourhood

/-- The decimal `c * 10 ^ t` of fewest digits that reads back as the positive finite `x`. -/
def shortest (x : Floating f) : Nat × Int :=
  -- `x` lies below two to this power, and 30103 / 100000 is a little more than the decimal
  -- logarithm of two, so the first grid is too coarse to be missed.
  let magnitude := (Nat.log2 x.significand : Int) + x.exponent + 1
  x.neighbourhood.search 24 (magnitude * 30103 / 100000 + 1)

end Floating

/-! ### Writing it down -/

/-- How a finite number is written. -/
structure FloatStyle where
  /-- A whole number keeps `.0`. -/
  wholeFraction : Bool
  /-- The exponents of the leading digit for which the number is written without an exponent. -/
  positional : Int → Bool

namespace FloatStyle

/-- Never with an exponent, and a whole number without a fraction. -/
def plain : FloatStyle := ⟨false, fun _ => true⟩

/-- With an exponent below `10 ^ -4` and from `10 ^ 16` up, and a whole number with a fraction. -/
def general : FloatStyle := ⟨true, fun e => -4 ≤ e && e < 16⟩

end FloatStyle

namespace Floating

variable {f : FloatFormat}

/-- `digits * 10 ^ t` without an exponent. -/
def positionalText (style : FloatStyle) (digits : List Char) (t : Int) : List Char :=
  let whole := digits.length + t
  if 0 ≤ t then
    digits ++ List.replicate t.toNat '0' ++ (if style.wholeFraction then ['.', '0'] else [])
  else if 0 < whole then digits.take whole.toNat ++ '.' :: digits.drop whole.toNat
  else '0' :: '.' :: List.replicate (-whole).toNat '0' ++ digits

/-- `digits * 10 ^ t` with one digit before the point and an exponent. -/
def scientificText (digits : List Char) (t : Int) : List Char :=
  let exponent := digits.length + t - 1
  let fraction := digits.drop 1
  digits.take 1 ++ (if fraction.isEmpty then [] else '.' :: fraction) ++
    'e' :: (toString exponent).toList

/-- The absolute value of a finite number. -/
def finiteText (style : FloatStyle) (x : Floating f) : List Char :=
  if x.isZero then if style.wholeFraction then ['0', '.', '0'] else ['0']
  else
    let (c, t) := x.shortest
    let digits := Nat.toDigits 10 c
    if style.positional (digits.length + t - 1) then positionalText style digits t
    else scientificText digits t

/-- The number in the given style. -/
def text (style : FloatStyle) (x : Floating f) : String :=
  if x.isNaN then "NaN"
  else
    let digits := if x.isInfinite then ['i', 'n', 'f'] else x.finiteText style
    String.ofList (if x.negative then '-' :: digits else digits)

end Floating
end ShardScan
