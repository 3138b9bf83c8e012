import Mathlib.Data.List.TakeWhile
import ShardScan.Coercion.Error
import ShardScan.Proofs.Batch.Amounts

/-!
# The written form of a decimal

A decimal with digits behind the point is written with all of them: the quotient by
the power of ten that its scale names, the point, and the remainder filled up with
zeros to as many digits as the scale says.  Read as a numeral the text denotes the
decimal, and this down to the least unscaled number, which has no positive
counterpart of its width.

A scale below zero names a factor.  The text leaves it out: it is the unscaled
number alone, and so denotes another number, unless that is zero.

## Main definitions

* `Text.unsigned?`, `Text.rational?` — the number that a numeral with a point denotes.

## Main results

* `Text.unsigned?_point` — digits before and behind a point are read as one number.
* `Text.rational?_decimalText` — what the text of a scaled integer denotes.
* `decimal_text` — **the text of a decimal, and when it denotes the decimal.**
-/

namespace ShardScan

namespace Text

/-- The number that a numeral without a sign denotes: digits, and where a point stands behind them
the digits of a fraction. -/
def unsigned? (s : List Char) : Option ℚ :=
  match s.dropWhile (· ≠ '.') with
  | [] => (natural? s).map fun n : Nat => (n : ℚ)
  | _ :: fraction =>
    (natural? (s.takeWhile (· ≠ '.'))).bind fun whole : Nat =>
      (natural? fraction).map fun part : Nat => (whole : ℚ) + part / 10 ^ fraction.length

/-- The number that a numeral denotes, with a minus sign before it or not. -/
def rational? : List Char → Option ℚ
  | '-' :: s => (unsigned? s).map fun x => -x
  | s => unsigned? s

/-! ### Padded digits -/

theorem natural?_paddedDecimal (width n : Nat) : natural? (paddedDecimal width n) = some n := by
  have hne : paddedDecimal width n ≠ [] := by simp [paddedDecimal, padZeros]
  have hdigits : (paddedDecimal width n).all Char.isDigit = true := by
    rw [paddedDecimal, padZeros, List.all_append, all_isDigit_toDigits, Bool.and_true,
      List.all_replicate]
    split <;> rfl
  rw [natural?, if_pos ⟨hne, hdigits⟩, paddedDecimal, padZeros, Nat.ofDigitChars_append,
    Nat.ofDigitChars_replicate_zero, Nat.mul_zero,
    Nat.ofDigitChars_toDigits (by decide) (by decide)]

/-- A number of as many digits as the width, or of fewer, is filled up to the width. -/
theorem length_paddedDecimal {width n : Nat} (hwidth : 0 < width) (h : n < 10 ^ width) :
    (paddedDecimal width n).length = width := by
  have hdigits : (Nat.toDigits 10 n).length ≤ width :=
    (Nat.length_toDigits_le_iff (by decide) hwidth).mpr h
  rw [paddedDecimal, padZeros, List.length_append, List.length_replicate,
    Nat.sub_add_cancel hdigits]

/-! ### Reading a numeral with a point -/

theorem isDigit_ne_point {c : Char} (h : c.isDigit = true) : c ≠ '.' := by
  rintro rfl
  exact absurd h (by decide)

theorem ne_point_of_mem_toDigits {n : Nat} {c : Char} (h : c ∈ Nat.toDigits 10 n) :
    decide (c ≠ '.') = true :=
  decide_eq_true (isDigit_ne_point (Nat.isDigit_of_mem_toDigits (by decide) (by decide) h))

@[simp]
theorem unsigned?_toDigits (n : Nat) : unsigned? (Nat.toDigits 10 n) = some (n : ℚ) := by
  have hrest : (Nat.toDigits 10 n).dropWhile (· ≠ '.') = [] :=
    List.dropWhile_eq_nil_iff.mpr fun _ h => ne_point_of_mem_toDigits h
  rw [unsigned?, hrest, natural?_toDigits, Option.map_some]

/-- **Digits before and behind a point** are read as one number. -/
theorem unsigned?_point {width part : Nat} (hwidth : 0 < width) (h : part < 10 ^ width)
    (whole : Nat) :
    unsigned? (Nat.toDigits 10 whole ++ '.' :: paddedDecimal width part) =
      some ((whole : ℚ) + part / 10 ^ width) := by
  have hwhole : (Nat.toDigits 10 whole ++ '.' :: paddedDecimal width part).takeWhile (· ≠ '.') =
      Nat.toDigits 10 whole := by
    rw [List.takeWhile_append_of_pos fun _ h => ne_point_of_mem_toDigits h,
      List.takeWhile_cons_of_neg (by decide), List.append_nil]
  have hrest : (Nat.toDigits 10 whole ++ '.' :: paddedDecimal width part).dropWhile (· ≠ '.') =
      '.' :: paddedDecimal width part := by
    rw [List.dropWhile_append_of_pos fun _ h => ne_point_of_mem_toDigits h,
      List.dropWhile_cons_of_neg (by decide)]
  simp only [unsigned?, hrest, hwhole, natural?_toDigits, natural?_paddedDecimal,
    length_paddedDecimal hwidth h, Option.bind_some, Option.map_some]

/-- A numeral that starts with a digit has no sign. -/
theorem rational?_toDigits_append (n : Nat) (s : List Char) :
    rational? (Nat.toDigits 10 n ++ s) = unsigned? (Nat.toDigits 10 n ++ s) := by
  obtain ⟨c, rest, hc⟩ := List.exists_cons_of_ne_nil (Nat.toDigits_ne_nil (b := 10) (n := n))
  have hdigit : c.isDigit = true :=
    Nat.isDigit_of_mem_toDigits (b := 10) (n := n) (by decide) (by decide) (by simp [hc])
  rw [hc, List.cons_append]
  unfold rational?
  split
  · next h =>
    cases h
    exact absurd hdigit (by decide)
  · rfl

/-- The sign of an integer before digits for its magnitude, at any scale. -/
theorem rational?_sign {n : Int} {x : ℚ} {m : Nat} {s : List Char}
    (h : unsigned? (Nat.toDigits 10 m ++ s) = some ((n.natAbs : ℚ) * x)) :
    rational? (if n < 0 then '-' :: (Nat.toDigits 10 m ++ s) else Nat.toDigits 10 m ++ s) =
      some ((n : ℚ) * x) := by
  split
  · next negative =>
    have hmagnitude : (n.natAbs : ℚ) = -n := by
      rw [← Int.cast_natCast, Int.ofNat_natAbs_of_nonpos negative.le, Int.cast_neg]
    rw [rational?, h, Option.map_some, hmagnitude, neg_mul, neg_neg]
  · next positive =>
    have hmagnitude : (n.natAbs : ℚ) = n := by
      rw [← Int.cast_natCast, Int.natAbs_of_nonneg (not_lt.mp positive)]
    rw [rational?_toDigits_append, h, hmagnitude]

/-! ### The text of a scaled integer -/

/-- An integer reads back from its decimal form as a number without a fraction. -/
theorem rational?_decimal (n : Int) : rational? (decimal n) = some (n : ℚ) := by
  have hdigits : unsigned? (Nat.toDigits 10 n.natAbs ++ []) = some ((n.natAbs : ℚ) * 1) := by
    rw [List.append_nil, unsigned?_toDigits, mul_one]
  have hread := rational?_sign hdigits
  rwa [List.append_nil, mul_one] at hread

/-- Quotient and remainder by a power of ten are the digits before and behind the point. -/
theorem div_add_mod_div (m width : Nat) :
    ((m / 10 ^ width : Nat) : ℚ) + (m % 10 ^ width : Nat) / 10 ^ width = m / 10 ^ width := by
  have hpow : (10 : ℚ) ^ width ≠ 0 := by positivity
  have hm : (10 : ℚ) ^ width * (m / 10 ^ width : Nat) + (m % 10 ^ width : Nat) = m := by
    exact_mod_cast Nat.div_add_mod m (10 ^ width)
  rw [eq_div_iff hpow, add_mul, div_mul_cancel₀ _ hpow, mul_comm, hm]

/-- **What the text of a scaled integer denotes.**  A scale below zero is read as zero. -/
theorem rational?_decimalText (unscaled scale : Int) :
    rational? (decimalText unscaled scale) = some ((unscaled : ℚ) * 10 ^ (-max scale 0)) := by
  rw [decimalText]
  split
  · next h => rw [rational?_decimal, max_eq_right h, neg_zero, zpow_zero, mul_one]
  · next h =>
    -- The digits are those of the magnitude; the sign is put to the number that they denote.
    obtain ⟨width, rfl⟩ := Int.eq_ofNat_of_zero_le (not_le.mp h).le
    have hwidth : 0 < width := by omega
    have hpart : unscaled.natAbs % 10 ^ width < 10 ^ width := Nat.mod_lt _ (by positivity)
    rw [max_eq_left (not_le.mp h).le, zpow_neg, zpow_natCast]
    refine rational?_sign ?_
    rw [Int.toNat_natCast, Nat.pow_eq, unsigned?_point hwidth hpart, div_add_mod_div,
      div_eq_mul_inv]

end Text

/-- The powers of ten with at most 38 zeros are words of 128 bits. -/
theorem WordFormat.holds_i128_pow {k : Nat} (h : k ≤ 38) : WordFormat.i128.Holds (10 ^ k) := by
  have hpow : (10 : Int) ^ k ≤ 10 ^ 38 := pow_le_pow_right₀ (by decide) h
  have hlo : WordFormat.i128.lo ≤ 0 := by decide
  have hpast : (10 : Int) ^ 38 < WordFormat.i128.past := by decide
  exact ⟨hlo.trans (by positivity), hpow.trans_lt hpast⟩

/-- **The text of a decimal** with a scale between -38 and 38.  The power of ten that its digits are
divided by is a word of 128 bits.  The text is the JSON form of the decimal and stands in each
failure that names it.  It denotes the decimal just when the scale is not below zero or the decimal
is zero; at a scale below zero it denotes the unscaled number. -/
theorem decimal_text (unscaled : Word .i128) (precision : Word .u8) (scale : Word .i8)
    (hscale : |scale.val| ≤ 38) :
    let d := Scalar.decimal unscaled precision scale
    WordFormat.i128.Holds (10 ^ scale.val.toNat) ∧
      d.toJson = .string d.display ∧
      (∀ target e, e = .mismatch d target ∨ e = .outOfRange d target →
        ∃ before behind, CoercionError.message e = before ++ d.display ++ behind) ∧
      (Text.rational? d.display.toList = d.rational? ↔ 0 ≤ scale.val ∨ unscaled.val = 0) ∧
      (scale.val < 0 → Text.rational? d.display.toList = some (unscaled.val : ℚ)) := by
  intro d
  have hread : Text.rational? d.display.toList =
      some ((unscaled.val : ℚ) * 10 ^ (-max scale.val 0)) := by
    rw [show d.display.toList = decimalText unscaled.val scale.val from String.toList_ofList]
    exact Text.rational?_decimalText unscaled.val scale.val
  have hdigits : scale.val.toNat ≤ 38 := by
    have := (abs_le.mp hscale).2
    omega
  refine ⟨WordFormat.holds_i128_pow hdigits, rfl, ?_, ?_, fun hfactor => ?_⟩
  · rintro target e (rfl | rfl)
    · exact ⟨"Cannot convert ", " to " ++ target.name, String.append_assoc ..⟩
    · exact ⟨"Value ", " is out of range for " ++ target.name, String.append_assoc ..⟩
  · rw [hread, Scalar.rational?, Option.some.injEq, Scalar.mul_zpow_eq_iff, or_comm,
      max_eq_left_iff]
  · rw [hread, max_eq_right hfactor.le, neg_zero, zpow_zero, mul_one]

/-- The least unscaled number with all of its digits but one behind the point, a loss of less than
one, and a loss of five hundreds, of which the text has the five. -/
theorem decimal_text_losses :
    (∃ least : Word .i128, least.val = -170141183460469231731687303715884105728 ∧
      Text.rational? (Scalar.decimal least 38 38).display.toList =
        some ((least.val : ℚ) * 10 ^ (-38 : Int))) ∧
      (Scalar.decimal ⟨-1234, by decide⟩ 10 5).display = "-0.01234" ∧
      Text.rational? (Scalar.decimal ⟨-1234, by decide⟩ 10 5).display.toList =
        some (((-1234 : Int) : ℚ) * 10 ^ (-5 : Int)) ∧
      Text.rational? (Scalar.decimal ⟨-5, by decide⟩ 3 ⟨-2, by decide⟩).display.toList =
        some ((-5 : Int) : ℚ) := by
  let least : Word .i128 := ⟨-170141183460469231731687303715884105728, by decide⟩
  obtain ⟨-, -, -, hleast, -⟩ := decimal_text least 38 38 (by decide)
  obtain ⟨-, -, -, hsmall, -⟩ := decimal_text ⟨-1234, by decide⟩ 10 5 (by decide)
  obtain ⟨-, -, -, -, hfactor⟩ := decimal_text ⟨-5, by decide⟩ 3 ⟨-2, by decide⟩ (by decide)
  exact ⟨⟨least, rfl, hleast.mpr (.inl (by decide))⟩, by decide +kernel,
    hsmall.mpr (.inl (by decide)), hfactor (by decide)⟩

/-- Five hundred, as five at scale -2, is written as five. -/
theorem text_of_five_hundred :
    Text.rational? (Scalar.decimal 5 3 ⟨-2, by decide⟩).display.toList = some 5 ∧
      (Scalar.decimal 5 3 ⟨-2, by decide⟩).rational? = some 500 :=
  ⟨by decide +kernel, by decide +kernel⟩

end ShardScan
