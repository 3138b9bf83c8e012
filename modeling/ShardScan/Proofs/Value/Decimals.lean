import ShardScan.Proofs.Floating.Binades
import ShardScan.Value.Order

/-!
# The order of decimals

Decimals compare exactly, whatever their scales.  Scales that are close are brought
to one by multiplication.  Where scales are more than 38 apart, a number of the
coarser one that is not zero exceeds all numbers of the finer one by so much that
a power of two lies between them even after the powers of ten and the quotients
have been rounded, so that dividing in double precision does no harm.

## Main definitions

* `log2Ten` — the logarithm of a power of ten to the base two, rounded down.
* `decimalQuotient` — a decimal as a quotient in double precision.
* `decimalUnits` — a decimal in units of the finest scale.

## Main results

* `compareDecimals_eq_compare` — decimals compare as their numbers of units.
-/

namespace ShardScan

open Floating

/-! ### Powers of ten in double precision -/

/-- The logarithm of a power of ten to the base two, rounded down. -/
def log2Ten (scale : Int) : Int := 108853 * scale / 32768

theorem log2Ten_bounds {s : Int} (hs : s.natAbs ≤ 128) : -426 ≤ log2Ten s ∧ log2Ten s ≤ 425 := by
  unfold log2Ten
  omega

/-- The logarithm is not a whole number, so that rounding down takes one off its negative. -/
theorem log2Ten_neg : ∀ n < 129, 0 < n → log2Ten (-(n : Nat)) = -1 - log2Ten n := by
  decide +kernel

/-- The powers of ten, rounded at every multiplication, stay where the exact powers are. -/
theorem powTen_table : ∀ n < 129,
    ((ofInt .binary64 10).pow (n : Nat)).negative = false ∧
      twoPow (log2Ten n) ≤ ((ofInt .binary64 10).pow (n : Nat)).magnitude ∧
      ((ofInt .binary64 10).pow (n : Nat)).magnitude ≤ twoPow (log2Ten n + 1) := by
  decide +kernel

theorem pow_neg_natCast (x : Binary64) {n : Nat} (h : 0 < n) :
    x.pow (-n : Int) = (ofInt .binary64 1).div (x.pow n) := by
  have hneg : (-n : Int) < 0 := by omega
  have hpos : ¬ (n : Int) < 0 := by omega
  simp only [pow, if_pos hneg, if_neg hpos, Int.natAbs_neg]

theorem between_powTen_natCast {n : Nat} (h : n ≤ 128) :
    ((ofInt .binary64 10).pow n).Between (log2Ten n) (log2Ten n + 1) := by
  obtain ⟨-, hlow, hhigh⟩ := powTen_table n (Nat.lt_succ_of_le h)
  have hbounds := log2Ten_bounds (s := n) h
  exact ⟨by omega, by omega, hlow, hhigh⟩

theorem magnitude_one_le : (ofInt .binary64 1).magnitude ≤ twoPow 0 :=
  magnitude_ofInt_le (k := 0) (by decide)

theorem magnitude_one_lt : (ofInt .binary64 1).magnitude < FloatFormat.binary64.infinity :=
  magnitude_one_le.trans_lt (twoPow_lt_infinity (by decide))

theorem negative_powTen {s : Int} (hs : s.natAbs ≤ 128) :
    ((ofInt .binary64 10).pow s).negative = false := by
  obtain ⟨n, rfl | rfl⟩ := Int.eq_nat_or_neg s
  · exact (powTen_table n (by omega)).1
  · have htable := (powTen_table n (by omega)).1
    rcases Nat.eq_zero_or_pos n with rfl | hn
    · exact htable
    · rw [pow_neg_natCast _ hn, negative_div magnitude_one_lt (between_powTen_natCast (by omega)),
        negative_ofInt, htable]
      rfl

/-- **A power of ten is rounded between the powers of two next to it.** -/
theorem between_powTen {s : Int} (hs : s.natAbs ≤ 128) :
    ((ofInt .binary64 10).pow s).Between (log2Ten s) (log2Ten s + 1) := by
  obtain ⟨n, rfl | rfl⟩ := Int.eq_nat_or_neg s
  · exact between_powTen_natCast (by omega)
  · have hpower := between_powTen_natCast (n := n) (by omega)
    rcases Nat.eq_zero_or_pos n with rfl | hn
    · exact hpower
    · have hlog : log2Ten (-n) = -1 - log2Ten n := log2Ten_neg n (by omega) hn
      have hbounds := log2Ten_bounds (s := n) (by omega)
      have hlow := le_magnitude_div (by decide) magnitude_one_lt (le_magnitude_ofInt (by decide))
        hpower (by omega) (by omega)
      have hhigh := magnitude_div_le (by decide) (by decide) magnitude_one_le hpower (by omega)
      rw [pow_neg_natCast _ hn, hlog]
      refine ⟨by omega, by omega, ?_, ?_⟩
      · rw [show -1 - log2Ten n = 0 - (log2Ten n + 1) by omega]
        exact hlow
      · rw [show -1 - log2Ten n + 1 = 0 - log2Ten n by omega]
        exact hhigh

/-! ### Quotients by powers of ten -/

/-- A decimal as a quotient in double precision. -/
def decimalQuotient (unscaled scale : Int) : Binary64 :=
  (ofInt .binary64 unscaled).div ((ofInt .binary64 10).pow scale)

section Quotient

variable {a s : Int} (ha : a.natAbs ≤ 2 ^ 127) (hs : s.natAbs ≤ 128)

include ha hs

theorem magnitude_decimalQuotient_le : (decimalQuotient a s).magnitude ≤ twoPow (127 - log2Ten s) := by
  have hpower := between_powTen hs
  have hbounds := log2Ten_bounds hs
  have hnum : (ofInt .binary64 a).magnitude ≤ twoPow 127 := magnitude_ofInt_le ha
  exact magnitude_div_le (by decide) (by decide) hnum hpower (by omega)

theorem le_magnitude_decimalQuotient (hzero : a ≠ 0) :
    twoPow (-1 - log2Ten s) ≤ (decimalQuotient a s).magnitude := by
  have hpower := between_powTen hs
  have hbounds := log2Ten_bounds hs
  have hnum : (ofInt .binary64 a).magnitude < FloatFormat.binary64.infinity :=
    (magnitude_ofInt_le ha).trans_lt (twoPow_lt_infinity (by decide))
  have hquotient := le_magnitude_div (by decide) hnum (le_magnitude_ofInt hzero) hpower
    (by omega) (by omega)
  rwa [show 0 - (log2Ten s + 1) = -1 - log2Ten s by omega] at hquotient

/-- The quotient has the sign of the decimal. -/
theorem compare_zero_decimalQuotient :
    compare 0 (decimalQuotient a s).signedMagnitude = compare 0 a := by
  have hpower := between_powTen hs
  have hbounds := log2Ten_bounds hs
  have hnum : (ofInt .binary64 a).magnitude < FloatFormat.binary64.infinity :=
    (magnitude_ofInt_le ha).trans_lt (twoPow_lt_infinity (by decide))
  have hsign : (decimalQuotient a s).negative = decide (a < 0) := by
    rw [decimalQuotient, negative_div hnum hpower, negative_powTen hs, negative_ofInt, Bool.bne_false]
  rw [signedMagnitude, hsign]
  by_cases hzero : a = 0
  · subst hzero
    rw [decimalQuotient, magnitude_zero_div magnitude_ofInt_zero hpower]
    rfl
  · have hpos : 0 < (decimalQuotient a s).magnitude := by
      refine lt_of_lt_of_le ?_ (le_magnitude_decimalQuotient ha hs hzero)
      exact lt_of_le_of_lt (Nat.zero_le _) (twoPow_lt_twoPow (j := -1023) (by omega) (by omega))
    rcases Int.lt_or_lt_of_ne hzero with hneg | hnonneg
    · rw [if_pos (by simpa using hneg), Int.compare_eq_gt.mpr hneg, Int.compare_eq_gt]
      omega
    · rw [if_neg (by simp; omega), Int.compare_eq_lt.mpr hnonneg, Int.compare_eq_lt]
      omega

end Quotient

/-! ### Units of the finest scale -/

/-- A decimal in units of the finest scale. -/
def decimalUnits (unscaled scale : Int) : Int := unscaled * 10 ^ (127 - scale).toNat

theorem compare_mul_right (a b : Int) {c : Int} (h : 0 < c) : compare (a * c) (b * c) = compare a b := by
  rcases Int.lt_trichotomy a b with hlt | rfl | hgt
  · rw [Int.compare_eq_lt.mpr hlt, Int.compare_eq_lt.mpr (Int.mul_lt_mul_of_pos_right hlt h)]
  · rw [Std.ReflOrd.compare_self, Std.ReflOrd.compare_self]
  · rw [Int.compare_eq_gt.mpr hgt, Int.compare_eq_gt.mpr (Int.mul_lt_mul_of_pos_right hgt h)]

theorem compare_zero_decimalUnits (a s : Int) : compare 0 (decimalUnits a s) = compare 0 a := by
  have hunit : (0 : Int) < 10 ^ (127 - s).toNat := by positivity
  rw [← compare_mul_right 0 a hunit, Int.zero_mul, decimalUnits]

/-- Scales that are close are brought to one. -/
theorem compare_decimalUnits (a b : Int) {sa sb : Int} (hsa : sa ≤ 127) (hsb : sb ≤ 127) :
    compare (a * Nat.pow 10 (sb - sa).toNat) (b * Nat.pow 10 (sa - sb).toNat) =
      compare (decimalUnits a sa) (decimalUnits b sb) := by
  have hunit : (0 : Int) < 10 ^ (127 - max sa sb).toNat := by positivity
  rw [← compare_mul_right _ _ hunit, decimalUnits, decimalUnits,
    show (127 - sa).toNat = (sb - sa).toNat + (127 - max sa sb).toNat by omega,
    show (127 - sb).toNat = (sa - sb).toNat + (127 - max sa sb).toNat by omega, Int.pow_add,
    Int.pow_add, Int.mul_assoc, Int.mul_assoc]
  rfl

/-- What no word of a format is lies beyond all of its words, on the side of its sign. -/
theorem compare_of_not_holds {f : WordFormat} {a p : Int} (ha : f.Holds a) (hp : ¬ f.Holds p) :
    compare a p = compare 0 p := by
  obtain ⟨hlow, hhigh⟩ := ha
  obtain ⟨hlow', hhigh'⟩ := f.holds_zero
  rcases Int.lt_or_le p f.lo with hbelow | habove
  · rw [Int.compare_eq_gt.mpr (by omega), Int.compare_eq_gt.mpr (by omega)]
  · have hpast : f.past ≤ p := Int.not_lt.mp fun hlt => hp ⟨habove, hlt⟩
    rw [Int.compare_eq_lt.mpr (by omega), Int.compare_eq_lt.mpr (by omega)]

/-- **Bringing a number to a finer scale keeps its order**, also where the product is too great. -/
theorem compareShifted_eq_compare {a : Int} (ha : WordFormat.i128.Holds a) (b : Int) (shift : Nat) :
    compareShifted a b shift = compare a (b * Nat.pow 10 shift) := by
  have hpower : (0 : Int) < Nat.pow 10 shift := by exact_mod_cast Nat.pow_pos (by decide)
  unfold compareShifted
  split
  · next product hproduct => rw [Word.ofInt?_eq_some_iff.mp hproduct]
  · next hproduct =>
    rw [compare_of_not_holds ha (Word.ofInt?_eq_none_iff.mp hproduct),
      ← compare_mul_right 0 b hpower, Int.zero_mul]

/-- A number compares with a greater one as zero does, the sign of the greater one deciding. -/
theorem compare_of_natAbs_lt {x y : Int} (h : x.natAbs < y.natAbs) : compare x y = compare 0 y := by
  rcases Int.lt_trichotomy 0 y with hpos | rfl | hneg
  · rw [Int.compare_eq_lt.mpr hpos, Int.compare_eq_lt]
    omega
  · cases h
  · rw [Int.compare_eq_gt.mpr hneg, Int.compare_eq_gt]
    omega

/-- Of scales far apart a number of the coarser one has more units than all of the other. -/
theorem natAbs_decimalUnits_lt {a b sa sb : Int} (ha : a.natAbs ≤ 2 ^ 127) (hsa : sa ≤ 127)
    (hfar : 38 < sa - sb) (hb : b ≠ 0) :
    (decimalUnits a sa).natAbs < (decimalUnits b sb).natAbs := by
  have hpow : (127 - sb).toNat = (sa - sb - 39).toNat + 39 + (127 - sa).toNat := by omega
  have hpos : 0 < b.natAbs * 10 ^ (sa - sb - 39).toNat :=
    Nat.mul_pos (Int.natAbs_pos.mpr hb) (by positivity)
  rw [decimalUnits, decimalUnits, hpow, Int.natAbs_mul, Int.natAbs_mul, Int.natAbs_pow,
    Int.natAbs_pow, Nat.pow_add, Nat.pow_add, ← Nat.mul_assoc]
  refine Nat.mul_lt_mul_of_pos_right ?_ (by positivity)
  calc a.natAbs ≤ 2 ^ 127 := ha
    _ < 1 * 10 ^ 39 := by decide
    _ ≤ b.natAbs * 10 ^ (sa - sb - 39).toNat * 10 ^ 39 := Nat.mul_le_mul_right _ hpos
    _ = b.natAbs * (10 ^ (sa - sb - 39).toNat * 10 ^ 39) := Nat.mul_assoc ..

theorem natAbs_signedMagnitude (x : Binary64) : x.signedMagnitude.natAbs = x.magnitude := by
  unfold signedMagnitude
  split <;> simp

/-- And a greater quotient. -/
theorem natAbs_decimalQuotient_lt {a b sa sb : Int} (ha : a.natAbs ≤ 2 ^ 127)
    (hb : b.natAbs ≤ 2 ^ 127) (hsa : sa.natAbs ≤ 128) (hsb : sb.natAbs ≤ 128)
    (hfar : 38 < sa - sb) (hzero : b ≠ 0) :
    (decimalQuotient a sa).signedMagnitude.natAbs < (decimalQuotient b sb).signedMagnitude.natAbs := by
  rw [natAbs_signedMagnitude, natAbs_signedMagnitude]
  have hbounds := log2Ten_bounds hsb
  calc (decimalQuotient a sa).magnitude ≤ twoPow (127 - log2Ten sa) :=
        magnitude_decimalQuotient_le ha hsa
    _ < twoPow (-1 - log2Ten sb) := by
        refine twoPow_lt_twoPow ?_ (by omega)
        unfold log2Ten
        omega
    _ ≤ (decimalQuotient b sb).magnitude := le_magnitude_decimalQuotient hb hsb hzero

/-- Where scales are far apart, quotients compare as the numbers of units. -/
theorem compare_decimalQuotient {a b sa sb : Int} (ha : a.natAbs ≤ 2 ^ 127)
    (hb : b.natAbs ≤ 2 ^ 127) (hsa : sa.natAbs ≤ 128) (hsb : sb.natAbs ≤ 128) (hsa' : sa ≤ 127)
    (hfar : 38 < sa - sb) :
    compare (decimalQuotient a sa).signedMagnitude (decimalQuotient b sb).signedMagnitude =
      compare (decimalUnits a sa) (decimalUnits b sb) := by
  by_cases hzero : b = 0
  · have hquotient := compare_zero_decimalQuotient hb hsb
    rw [hzero, Std.ReflOrd.compare_self, Int.compare_eq_eq] at hquotient
    rw [hzero, ← hquotient, decimalUnits, decimalUnits, Int.zero_mul, ← decimalUnits,
      Std.OrientedOrd.eq_swap, compare_zero_decimalQuotient ha hsa, ← compare_zero_decimalUnits a sa,
      ← Std.OrientedOrd.eq_swap]
  · rw [compare_of_natAbs_lt (natAbs_decimalQuotient_lt ha hb hsa hsb hfar hzero),
      compare_of_natAbs_lt (natAbs_decimalUnits_lt ha hsa' hfar hzero),
      compare_zero_decimalQuotient hb hsb, compare_zero_decimalUnits]

theorem isNaN_decimalQuotient {a s : Int} (ha : a.natAbs ≤ 2 ^ 127) (hs : s.natAbs ≤ 128) :
    (decimalQuotient a s).isNaN = false := by
  have hbounds := log2Ten_bounds hs
  have hfinite := (magnitude_decimalQuotient_le ha hs).trans_lt (twoPow_lt_infinity (by omega))
  exact decide_eq_false (Nat.not_lt.mpr hfinite.le)

/-- **Decimals compare as their numbers of units**, whatever their scales. -/
theorem compareDecimals_eq_compare {a sa b sb : Int} (ha : WordFormat.i128.Holds a)
    (hsa : WordFormat.i8.Holds sa) (hb : WordFormat.i128.Holds b) (hsb : WordFormat.i8.Holds sb) :
    compareDecimals a sa b sb = compare (decimalUnits a sa) (decimalUnits b sb) := by
  have hnum : ∀ n : Int, WordFormat.i128.Holds n → n.natAbs ≤ 2 ^ 127 := by
    rintro n ⟨hlow, hhigh⟩
    have hlo : WordFormat.i128.lo = -2 ^ 127 := by decide
    have hpast : WordFormat.i128.past = 2 ^ 127 := by decide
    omega
  have hscale : ∀ s : Int, WordFormat.i8.Holds s → s.natAbs ≤ 128 ∧ s ≤ 127 := by
    rintro s ⟨hlow, hhigh⟩
    have hlo : WordFormat.i8.lo = -128 := by decide
    have hpast : WordFormat.i8.past = 128 := by decide
    omega
  obtain ⟨hsa, hsa'⟩ := hscale sa hsa
  obtain ⟨hsb, hsb'⟩ := hscale sb hsb
  rw [compareDecimals]
  split
  · next hsame =>
    have hunits := compare_decimalUnits a b hsa' hsb'
    simpa [hsame] using hunits
  · next hother =>
    split
    · next hfar =>
      show ((decimalQuotient a sa).cmp (decimalQuotient b sb)).getD .eq = _
      rw [Floating.cmp, isNaN_decimalQuotient (hnum a ha) hsa, isNaN_decimalQuotient (hnum b hb) hsb,
        Bool.or_false, if_neg Bool.false_ne_true, Option.getD_some]
      rcases Int.lt_or_lt_of_ne hother with hlt | hgt
      · rw [Std.OrientedOrd.eq_swap, compare_decimalQuotient (hnum b hb) (hnum a ha) hsb hsa hsb'
          (by omega), ← Std.OrientedOrd.eq_swap]
      · exact compare_decimalQuotient (hnum a ha) (hnum b hb) hsa hsb hsa' (by omega)
    · rw [← compare_decimalUnits a b hsa' hsb']
      split
      · next hgt =>
        rw [compareShifted_eq_compare ha, show (sb - sa).toNat = 0 by omega,
          show (sa - sb).natAbs = (sa - sb).toNat by omega]
        simp
      · next hle =>
        rw [compareShifted_eq_compare hb, ← Std.OrientedOrd.eq_swap,
          show (sa - sb).toNat = 0 by omega, show (sa - sb).natAbs = (sb - sa).toNat by omega]
        simp

end ShardScan
