import Mathlib.Algebra.Order.Field.Power
import Mathlib.Algebra.Order.Field.Rat
import Mathlib.Tactic.FieldSimp
import Mathlib.Tactic.Linarith
import Mathlib.Tactic.Positivity
import ShardScan.Floating.Basic

/-!
# Powers of two in double precision

The magnitude of a number grows with the number, and rounding never crosses a
power of two, since each of them is a number itself.  So a bound of a ratio by a
power of two is a bound of the magnitude of the number nearest to the ratio, and
the other way round.  This is all that comparisons of numbers far apart need.

## Main definitions

* `Floating.twoPow` — the magnitude of a power of two.
* `Floating.value` — the absolute value of a finite number.

## Main results

* `Floating.magnitude_nearest_le`, `Floating.le_magnitude_nearest` — rounding does not cross a
  power of two.
* `Floating.value_le`, `Floating.le_value` — nor does reading a magnitude.
* `Floating.magnitude_div_le`, `Floating.le_magnitude_div` — quotients of numbers between powers of
  two.
-/

namespace ShardScan.Floating

/-! ### Whole numbers nearest to a ratio -/

theorem divideToEven_le {num den c : Nat} (h : num ≤ c * den) : divideToEven num den ≤ c := by
  have hdiv : den * (num / den) + num % den = num := Nat.div_add_mod num den
  have hparity : num / den % 2 < 2 := Nat.mod_lt _ (by decide)
  rcases Nat.eq_zero_or_pos den with rfl | hden
  · have hnum : num = 0 := by simpa using h
    simp [divideToEven, hnum]
  · have hquotient : num / den ≤ c := Nat.div_le_of_le_mul (by rwa [Nat.mul_comm])
    rcases Nat.lt_or_eq_of_le hquotient with hlt | heq
    · unfold divideToEven
      dsimp only
      split
      · omega
      · split <;> omega
    · -- The quotient is the bound, so that nothing is left over.
      have hrest : num % den = 0 := by
        rw [heq, Nat.mul_comm] at hdiv
        omega
      simp [divideToEven, hrest, hden, heq]

theorem le_divideToEven {num den c : Nat} (hden : 0 < den) (h : c * den ≤ num) :
    c ≤ divideToEven num den := by
  have hquotient : c ≤ num / den := (Nat.le_div_iff_mul_le hden).mpr h
  unfold divideToEven
  dsimp only
  split
  · omega
  · split <;> omega

/-! ### The logarithm of a ratio -/

theorem zpow_two_eq (e : Int) : (2 : ℚ) ^ e = 2 ^ e.toNat / 2 ^ (-e).toNat := by
  rcases Int.le_total 0 e with h | h
  · obtain ⟨n, rfl⟩ := Int.eq_ofNat_of_zero_le h
    simp
  · obtain ⟨n, hn⟩ := Int.eq_ofNat_of_zero_le (Int.neg_nonneg_of_nonpos h)
    obtain rfl : e = -n := by omega
    simp

/-- The two sides of a ratio, scaled to whole units of a power of two. -/
theorem scaled_ratio (num den : Nat) (e : Int) :
    ((num * Nat.pow 2 (-e).toNat : Nat) : ℚ) / (den * Nat.pow 2 e.toNat : Nat) =
      num / den / 2 ^ e := by
  have hpow : ∀ n : Nat, ((Nat.pow 2 n : Nat) : ℚ) = 2 ^ n := fun n => by
    rw [Nat.pow_eq]
    push_cast
    rfl
  rw [zpow_two_eq, Nat.cast_mul, Nat.cast_mul, hpow, hpow, div_div_eq_mul_div, div_mul_eq_mul_div,
    div_div]

theorem scaled_den_pos {den : Nat} (hden : 0 < den) (e : Int) : 0 < den * Nat.pow 2 e.toNat :=
  Nat.mul_pos hden (Nat.pow_pos (by decide))

theorem scaled_le_iff (num : Nat) {den : Nat} (hden : 0 < den) (e : Int) (c : Nat) :
    num * Nat.pow 2 (-e).toNat ≤ c * (den * Nat.pow 2 e.toNat) ↔ (num : ℚ) / den ≤ c * 2 ^ e := by
  have hpos : (0 : ℚ) < (den * Nat.pow 2 e.toNat : Nat) := Nat.cast_pos.mpr (scaled_den_pos hden e)
  rw [← div_le_iff₀ (by positivity), ← scaled_ratio, div_le_iff₀ hpos]
  exact_mod_cast Iff.rfl

theorem le_scaled_iff (num : Nat) {den : Nat} (hden : 0 < den) (e : Int) (c : Nat) :
    c * (den * Nat.pow 2 e.toNat) ≤ num * Nat.pow 2 (-e).toNat ↔ (c : ℚ) * 2 ^ e ≤ num / den := by
  have hpos : (0 : ℚ) < (den * Nat.pow 2 e.toNat : Nat) := Nat.cast_pos.mpr (scaled_den_pos hden e)
  rw [← le_div_iff₀ (by positivity), ← scaled_ratio, le_div_iff₀ hpos]
  exact_mod_cast Iff.rfl

/-- A positive number lies between two powers of two. -/
theorem zpow_log2_le {n : Nat} (h : 0 < n) : (2 : ℚ) ^ (n.log2 : Int) ≤ n := by
  rw [zpow_natCast]
  exact_mod_cast Nat.log2_self_le h.ne'

theorem lt_zpow_log2_succ (n : Nat) : (n : ℚ) < 2 ^ (n.log2 + 1 : Int) := by
  have hlt : n < 2 ^ (n.log2 + 1) := Nat.lt_log2_self
  exact_mod_cast hlt

/-- **The logarithm of a ratio** is the exponent of the last power of two that is not above it. -/
theorem zpow_log2Ratio_le {num den : Nat} (hnum : 0 < num) (hden : 0 < den) :
    (2 : ℚ) ^ log2Ratio num den ≤ num / den ∧ (num : ℚ) / den < 2 ^ (log2Ratio num den + 1) := by
  have hpos : (0 : ℚ) < den := Nat.cast_pos.mpr hden
  -- The quotient of the two leading powers is off by less than a factor of two.
  have hlow : (2 : ℚ) ^ ((num.log2 : Int) - den.log2 - 1) ≤ num / den := by
    rw [le_div_iff₀ hpos]
    calc (2 : ℚ) ^ ((num.log2 : Int) - den.log2 - 1) * den
        ≤ 2 ^ ((num.log2 : Int) - den.log2 - 1) * 2 ^ (den.log2 + 1 : Int) := by
          have := (lt_zpow_log2_succ den).le
          gcongr
      _ = 2 ^ (num.log2 : Int) := by
          rw [← zpow_add₀ (by norm_num)]
          congr 1
          omega
      _ ≤ num := zpow_log2_le hnum
  have hhigh : (num : ℚ) / den < 2 ^ ((num.log2 : Int) - den.log2 + 1) := by
    rw [div_lt_iff₀ hpos]
    calc (num : ℚ) < 2 ^ (num.log2 + 1 : Int) := lt_zpow_log2_succ num
      _ = 2 ^ ((num.log2 : Int) - den.log2 + 1) * 2 ^ (den.log2 : Int) := by
          rw [← zpow_add₀ (by norm_num)]
          congr 1
          omega
      _ ≤ 2 ^ ((num.log2 : Int) - den.log2 + 1) * den := by
          have := zpow_log2_le hden
          gcongr
  have htest := le_scaled_iff num hden ((num.log2 : Int) - den.log2) 1
  rw [Nat.one_mul, Nat.cast_one, one_mul] at htest
  unfold log2Ratio
  dsimp only
  split
  · next hbelow =>
    refine ⟨hlow, ?_⟩
    rw [Int.sub_add_cancel, ← not_le, ← htest, Nat.not_le]
    exact hbelow
  · next habove => exact ⟨htest.mp (Nat.le_of_not_lt habove), hhigh⟩

theorem log2Ratio_le {num den : Nat} (hnum : 0 < num) (hden : 0 < den) {k : Int}
    (h : (num : ℚ) / den ≤ 2 ^ k) : log2Ratio num den ≤ k :=
  (zpow_le_zpow_iff_right₀ (by norm_num)).mp ((zpow_log2Ratio_le hnum hden).1.trans h)

theorem le_log2Ratio {num den : Nat} (hnum : 0 < num) (hden : 0 < den) {k : Int}
    (h : (2 : ℚ) ^ k ≤ num / den) : k ≤ log2Ratio num den := by
  have hlt : k < log2Ratio num den + 1 :=
    (zpow_lt_zpow_iff_right₀ (by norm_num)).mp (h.trans_lt (zpow_log2Ratio_le hnum hden).2)
  omega

/-! ### Signs and magnitudes -/

section Parts

variable {sign : Bool} {m : Nat}

theorem bits_ofMagnitude (h : m < FloatFormat.binary64.signWeight) :
    (ofMagnitude .binary64 sign m).bits =
      if sign then FloatFormat.binary64.signWeight + m else m := by
  have hsize : FloatFormat.binary64.word.size = 2 * FloatFormat.binary64.signWeight := by decide
  rw [bits, ofMagnitude, ofBits]
  apply Word.residue_ofResidue
  rw [hsize]
  split <;> omega

theorem magnitude_ofMagnitude (h : m < FloatFormat.binary64.signWeight) :
    (ofMagnitude .binary64 sign m).magnitude = m := by
  rw [magnitude, bits_ofMagnitude h]
  split
  · rw [Nat.add_mod_left, Nat.mod_eq_of_lt h]
  · exact Nat.mod_eq_of_lt h

theorem negative_ofMagnitude (h : m < FloatFormat.binary64.signWeight) :
    (ofMagnitude .binary64 sign m).negative = sign := by
  rw [negative, bits_ofMagnitude h]
  cases sign
  · simpa using h
  · simp

end Parts

/-! ### Rounding -/

/-- The magnitude of `2 ^ k` in double precision. -/
def twoPow (k : Int) : Nat := (k + 1023).toNat * 2 ^ 52

theorem twoPow_lt_twoPow {j k : Int} (h : j < k) (hk : -1023 < k) : twoPow j < twoPow k :=
  Nat.mul_lt_mul_of_pos_right ((Int.toNat_lt_toNat (by omega)).mpr (by omega)) (by decide)

theorem twoPow_lt_infinity {k : Int} (h : k ≤ 1023) :
    twoPow k < FloatFormat.binary64.infinity := by
  have htop : twoPow 1024 = FloatFormat.binary64.infinity := by decide
  rw [← htop]
  exact twoPow_lt_twoPow (by omega) (by decide)

/-- The magnitude that a ratio is rounded to, with the exponent of its last digit. -/
theorem nearest_eq (sign : Bool) {num : Nat} (den : Nat) (hnum : 0 < num) :
    ∃ e : Int, e = max (log2Ratio num den - 52) (-1074) ∧
      nearest .binary64 sign num den = ofMagnitude .binary64 sign
        (min ((e + 1074).toNat * 2 ^ 52 +
            divideToEven (num * Nat.pow 2 (-e).toNat) (den * Nat.pow 2 e.toNat))
          FloatFormat.binary64.infinity) := by
  have hleast : FloatFormat.binary64.leastExponent = -1074 := by decide
  refine ⟨_, rfl, ?_⟩
  rw [nearest, if_neg hnum.ne', hleast]
  rfl

theorem min_infinity_lt (m : Nat) :
    min m FloatFormat.binary64.infinity < FloatFormat.binary64.signWeight :=
  Nat.lt_of_le_of_lt (Nat.min_le_right ..) (by decide)

theorem nearest_zero (sign : Bool) (den : Nat) :
    nearest .binary64 sign 0 den = ofMagnitude .binary64 sign 0 := if_pos rfl

theorem negative_nearest (sign : Bool) (num den : Nat) :
    (nearest .binary64 sign num den).negative = sign := by
  rcases Nat.eq_zero_or_pos num with rfl | hnum
  · rw [nearest_zero, negative_ofMagnitude (by decide)]
  · obtain ⟨e, -, hnearest⟩ := nearest_eq sign den hnum
    rw [hnearest, negative_ofMagnitude (min_infinity_lt _)]

theorem magnitude_nearest_zero (sign : Bool) (den : Nat) :
    (nearest .binary64 sign 0 den).magnitude = 0 := by
  rw [nearest_zero, magnitude_ofMagnitude (by decide)]

/-- **A ratio up to a power of two is rounded to a number up to it.** -/
theorem magnitude_nearest_le (sign : Bool) {num den : Nat} (hden : 0 < den) {k : Int}
    (hk : -1022 ≤ k) (h : (num : ℚ) / den ≤ 2 ^ k) :
    (nearest .binary64 sign num den).magnitude ≤ twoPow k := by
  rcases Nat.eq_zero_or_pos num with rfl | hnum
  · rw [magnitude_nearest_zero]
    exact Nat.zero_le _
  obtain ⟨e, he, hnearest⟩ := nearest_eq sign den hnum
  have hlog := log2Ratio_le hnum hden h
  rw [hnearest, magnitude_ofMagnitude (min_infinity_lt _)]
  refine (Nat.min_le_left ..).trans ?_
  have hunits : ∀ c : Nat, (num : ℚ) / den ≤ c * 2 ^ e →
      divideToEven (num * Nat.pow 2 (-e).toNat) (den * Nat.pow 2 e.toNat) ≤ c :=
    fun c hc => divideToEven_le ((scaled_le_iff num hden e c).mpr hc)
  rw [twoPow]
  -- Right below the power the significand goes up to its leading digit only.
  by_cases hlast : e = k - 52
  · have hm := hunits (2 ^ 52) (by
      have hpower : ((2 ^ 52 : Nat) : ℚ) * 2 ^ (k - 52) = 2 ^ k := by
        rw [zpow_sub₀ (by norm_num)]
        norm_num [mul_div_cancel₀]
      rwa [hlast, hpower])
    omega
  · have hm := hunits (2 ^ 53) (by
      refine (zpow_log2Ratio_le hnum hden).2.le.trans ?_
      calc (2 : ℚ) ^ (log2Ratio num den + 1) ≤ 2 ^ (53 + e) :=
            zpow_le_zpow_right₀ (by norm_num) (by omega)
        _ = (2 ^ 53 : Nat) * 2 ^ e := by
            rw [zpow_add₀ (by norm_num)]
            norm_num)
    omega

/-- **A ratio from a power of two on is rounded to a number from it on.** -/
theorem le_magnitude_nearest (sign : Bool) {num den : Nat} (hden : 0 < den) {k : Int}
    (hk : -1022 ≤ k) (hk' : k ≤ 1023) (h : (2 : ℚ) ^ k ≤ num / den) :
    twoPow k ≤ (nearest .binary64 sign num den).magnitude := by
  have hnum : 0 < num := by
    rcases Nat.eq_zero_or_pos num with rfl | hnum
    · rw [Nat.cast_zero, zero_div] at h
      exact absurd h (not_le.mpr (by positivity))
    · exact hnum
  obtain ⟨e, he, hnearest⟩ := nearest_eq sign den hnum
  have hlog := le_log2Ratio hnum hden h
  rw [hnearest, magnitude_ofMagnitude (min_infinity_lt _)]
  refine Nat.le_min.mpr ⟨?_, (twoPow_lt_infinity hk').le⟩
  have hm : 2 ^ 52 ≤ divideToEven (num * Nat.pow 2 (-e).toNat) (den * Nat.pow 2 e.toNat) := by
    refine le_divideToEven (scaled_den_pos hden e) ((le_scaled_iff num hden e _).mpr ?_)
    have hle := (zpow_log2Ratio_le hnum hden).1
    rw [show log2Ratio num den = 52 + e by omega, zpow_add₀ (by norm_num)] at hle
    exact_mod_cast hle
  rw [twoPow]
  omega

/-! ### Reading a number -/

/-- The absolute value of a finite number. -/
def value (x : Binary64) : ℚ := x.ratio.1 / x.ratio.2

theorem ratio_den_pos (x : Binary64) : 0 < x.ratio.2 := by
  unfold ratio
  split
  · exact Nat.pow_pos (by decide)
  · exact Nat.one_pos

theorem value_eq (x : Binary64) : x.value = x.significand * 2 ^ x.exponent := by
  rw [value, zpow_two_eq]
  unfold ratio
  split
  · next h =>
    have hzero : x.exponent.toNat = 0 := by omega
    rw [hzero]
    simp [div_eq_mul_inv]
  · next h =>
    have hzero : (-x.exponent).toNat = 0 := by omega
    rw [hzero]
    simp

/-- The digits of the magnitude: the exponent of the significand, and the significand. -/
theorem magnitude_eq (x : Binary64) :
    x.magnitude = (x.exponent + 1074).toNat * 2 ^ 52 + x.significand ∧ -1074 ≤ x.exponent ∧
      x.significand < 2 ^ 53 ∧ (-1074 < x.exponent → 2 ^ 52 ≤ x.significand) := by
  have hhidden : FloatFormat.binary64.hiddenBit = 2 ^ 52 := by decide
  have hleast : FloatFormat.binary64.leastExponent = -1074 := by decide
  rw [significand, exponent, hhidden, hleast]
  split <;> omega

/-- A number whose magnitude is up to that of a power of two is up to that power. -/
theorem value_le {x : Binary64} {k : Int} (hk : -1022 ≤ k) (h : x.magnitude ≤ twoPow k) :
    x.value ≤ 2 ^ k := by
  obtain ⟨hmagnitude, hleast, hbound, hlead⟩ := x.magnitude_eq
  rw [twoPow] at h
  have hunits : ∀ c : Nat, x.significand ≤ 2 ^ c → x.exponent + c ≤ k → x.value ≤ 2 ^ k := by
    intro c hc hexponent
    rw [value_eq]
    calc (x.significand : ℚ) * 2 ^ x.exponent ≤ 2 ^ (c : Int) * 2 ^ x.exponent := by
          have : (x.significand : ℚ) ≤ 2 ^ (c : Int) := by exact_mod_cast hc
          gcongr
      _ = 2 ^ (c + x.exponent) := (zpow_add₀ (by norm_num) _ _).symm
      _ ≤ 2 ^ k := zpow_le_zpow_right₀ (by norm_num) (by omega)
  by_cases hsmall : x.significand ≤ 2 ^ 52
  · exact hunits 52 hsmall (by omega)
  · exact hunits 53 (by omega) (by omega)

/-- A number whose magnitude is from that of a power of two on is from that power on. -/
theorem le_value {x : Binary64} {k : Int} (hk : -1022 ≤ k) (h : twoPow k ≤ x.magnitude) :
    2 ^ k ≤ x.value := by
  obtain ⟨hmagnitude, hleast, hbound, hlead⟩ := x.magnitude_eq
  rw [twoPow] at h
  have hsignificand : 2 ^ 52 ≤ x.significand := by
    by_cases hnormal : -1074 < x.exponent
    · exact hlead hnormal
    · omega
  rw [value_eq]
  calc (2 : ℚ) ^ k ≤ 2 ^ (52 + x.exponent) := zpow_le_zpow_right₀ (by norm_num) (by omega)
    _ = 2 ^ 52 * 2 ^ x.exponent := by
        rw [zpow_add₀ (by norm_num)]
        norm_num
    _ ≤ x.significand * 2 ^ x.exponent := by
        have : (2 ^ 52 : ℚ) ≤ x.significand := by exact_mod_cast hsignificand
        gcongr

/-! ### Quotients -/

/-- The number is finite, not zero, and between two powers of two. -/
structure Between (x : Binary64) (j k : Int) : Prop where
  least : -1022 ≤ j
  greatest : k ≤ 1023
  le_magnitude : twoPow j ≤ x.magnitude
  magnitude_le : x.magnitude ≤ twoPow k

namespace Between

variable {x y : Binary64} {j k : Int}

theorem magnitude_lt (h : x.Between j k) : x.magnitude < FloatFormat.binary64.infinity :=
  h.magnitude_le.trans_lt (twoPow_lt_infinity h.greatest)

theorem magnitude_pos (h : x.Between j k) : 0 < x.magnitude := by
  refine lt_of_lt_of_le ?_ h.le_magnitude
  have := twoPow_lt_twoPow (j := -1023) (k := j) (by have := h.least; omega)
    (by have := h.least; omega)
  omega

theorem value_pos (h : x.Between j k) : 0 < x.value :=
  lt_of_lt_of_le (by positivity) (le_value h.least h.le_magnitude)

theorem exponents_le (h : x.Between j k) : j ≤ k := by
  by_contra hlt
  have hless := twoPow_lt_twoPow (not_le.mp hlt) (by have := h.least; omega)
  exact absurd (h.le_magnitude.trans h.magnitude_le) (not_le.mpr hless)

end Between

section Quotients

variable {x y : Binary64} {j k : Int}

theorem div_eq_nearest (hx : x.magnitude < FloatFormat.binary64.infinity) (hy : y.Between j k) :
    x.div y = nearest .binary64 (x.negative != y.negative) (x.ratio.1 * y.ratio.2)
      (x.ratio.2 * y.ratio.1) := by
  have hfinite : ∀ z : Binary64, z.magnitude < FloatFormat.binary64.infinity →
      z.isNaN = false ∧ z.isInfinite = false := by
    intro z hz
    exact ⟨decide_eq_false (Nat.not_lt.mpr hz.le), beq_false_of_ne hz.ne⟩
  obtain ⟨hxnan, hxinf⟩ := hfinite x hx
  obtain ⟨hynan, hyinf⟩ := hfinite y hy.magnitude_lt
  have hyzero : y.isZero = false := beq_false_of_ne hy.magnitude_pos.ne'
  simp [div, hxnan, hxinf, hynan, hyinf, hyzero]

theorem ratio_div (x y : Binary64) :
    ((x.ratio.1 * y.ratio.2 : Nat) : ℚ) / (x.ratio.2 * y.ratio.1 : Nat) = x.value / y.value := by
  rw [value, value, div_div_div_eq, Nat.cast_mul, Nat.cast_mul]

theorem ratio_div_den_pos (x : Binary64) (hy : y.Between j k) : 0 < x.ratio.2 * y.ratio.1 := by
  refine Nat.mul_pos x.ratio_den_pos (Nat.pos_of_ne_zero ?_)
  intro hzero
  have hpos := hy.value_pos
  rw [value, hzero, Nat.cast_zero, zero_div] at hpos
  exact lt_irrefl 0 hpos

/-- A quotient is negative if one of its sides is. -/
theorem negative_div (hx : x.magnitude < FloatFormat.binary64.infinity) (hy : y.Between j k) :
    (x.div y).negative = (x.negative != y.negative) := by
  rw [div_eq_nearest hx hy, negative_nearest]

/-- A quotient is up to the greatest numerator over the least denominator. -/
theorem magnitude_div_le {n : Int} (hn : -1022 ≤ n) (hn' : n ≤ 1023) (hx : x.magnitude ≤ twoPow n)
    (hy : y.Between j k) (hquotient : -1022 ≤ n - j) : (x.div y).magnitude ≤ twoPow (n - j) := by
  rw [div_eq_nearest (hx.trans_lt (twoPow_lt_infinity hn')) hy]
  refine magnitude_nearest_le _ (ratio_div_den_pos x hy) hquotient ?_
  rw [ratio_div, zpow_sub₀ (by norm_num)]
  have hnum := value_le hn hx
  have hden := le_value hy.least hy.le_magnitude
  gcongr

theorem magnitude_zero_div (hx : x.magnitude = 0) (hy : y.Between j k) :
    (x.div y).magnitude = 0 := by
  have hnum : x.ratio.1 = 0 := by
    have hsignificand : x.significand = 0 := by
      rw [significand, hx]
      rfl
    unfold ratio
    split <;> simp [hsignificand]
  have hfinite : x.magnitude < FloatFormat.binary64.infinity := by
    rw [hx]
    decide
  rw [div_eq_nearest hfinite hy, hnum, Nat.zero_mul, magnitude_nearest_zero]

/-- And from the least numerator over the greatest denominator on. -/
theorem le_magnitude_div {n : Int} (hn : -1022 ≤ n)
    (hx : x.magnitude < FloatFormat.binary64.infinity) (hx' : twoPow n ≤ x.magnitude)
    (hy : y.Between j k) (hquotient : -1022 ≤ n - k) (hquotient' : n - k ≤ 1023) :
    twoPow (n - k) ≤ (x.div y).magnitude := by
  rw [div_eq_nearest hx hy]
  refine le_magnitude_nearest _ (ratio_div_den_pos x hy) hquotient hquotient' ?_
  rw [ratio_div, zpow_sub₀ (by norm_num)]
  have hnum := le_value hn hx'
  have hden := value_le (by have := hy.least; have := hy.exponents_le; omega) hy.magnitude_le
  have hpos := hy.value_pos
  have hnonneg : 0 ≤ x.value := le_trans (by positivity) hnum
  gcongr

end Quotients

/-! ### Whole numbers -/

theorem negative_ofInt (n : Int) : (ofInt .binary64 n).negative = decide (n < 0) :=
  negative_nearest ..

theorem magnitude_ofInt_zero : (ofInt .binary64 0).magnitude = 0 := magnitude_nearest_zero ..

theorem magnitude_ofInt_le {n : Int} {k : Nat} (h : n.natAbs ≤ 2 ^ k) :
    (ofInt .binary64 n).magnitude ≤ twoPow k := by
  refine magnitude_nearest_le _ Nat.one_pos (by omega) ?_
  rw [Nat.cast_one, div_one, zpow_natCast]
  exact_mod_cast h

theorem le_magnitude_ofInt {n : Int} (h : n ≠ 0) : twoPow 0 ≤ (ofInt .binary64 n).magnitude := by
  refine le_magnitude_nearest _ Nat.one_pos (by decide) (by decide) ?_
  rw [Nat.cast_one, div_one, zpow_zero]
  exact_mod_cast Int.natAbs_pos.mpr h

end ShardScan.Floating
