import Mathlib.Algebra.Group.Nat.Defs
import ShardScan.Proofs.Text.Order
import ShardScan.Text.Numeral

/-!
# Hexadecimal digits of one length

Numbers in lower-case hexadecimal digits, filled up with zeros to one length, are
ordered as texts in the way they are as numbers, and each reads back.

## Main definitions

* `hexDigits` — a given number of digits, from the last one on.

## Main results

* `paddedHex_eq_hexDigits` — the padded form of a number that is not too great has these digits.
* `compare_hexDigits` — digits are ordered as the numbers are.
* `ofHex?_hexDigits` — a number reads back from its digits.
-/

namespace ShardScan.Text

/-- The last `width` lower-case hexadecimal digits of a number. -/
def hexDigits : Nat → Nat → List Char
  | 0, _ => []
  | width + 1, n => hexDigits width (n / 16) ++ [Nat.digitChar (n % 16)]

@[simp] theorem length_hexDigits (width n : Nat) : (hexDigits width n).length = width := by
  induction width generalizing n with
  | zero => rfl
  | succ width ih => rw [hexDigits, List.length_append, ih, List.length_singleton]

theorem mem_hexDigits {width n : Nat} {c : Char} (h : c ∈ hexDigits width n) :
    ∃ d < 16, c = Nat.digitChar d := by
  induction width generalizing n with
  | zero => cases h
  | succ width ih =>
    rcases List.mem_append.mp h with h | h
    · exact ih h
    · exact ⟨n % 16, Nat.mod_lt n (by decide), List.mem_singleton.mp h⟩

/-! ### The padded form -/

theorem hexDigits_zero (width : Nat) : hexDigits width 0 = List.replicate width '0' := by
  induction width with
  | zero => rfl
  | succ width ih =>
    rw [hexDigits, List.replicate_succ', Nat.zero_div, ih]
    rfl

theorem padZeros_concat (width : Nat) (s : List Char) (c : Char) :
    padZeros (width + 1) (s ++ [c]) = padZeros width s ++ [c] := by
  rw [padZeros, padZeros, List.length_append, List.length_singleton, Nat.add_sub_add_right,
    List.append_assoc]

theorem paddedHex_eq_hexDigits {width n : Nat} (hwidth : 0 < width) (h : n < 16 ^ width) :
    paddedHex width n = hexDigits width n := by
  rw [paddedHex]
  induction width generalizing n with
  | zero => cases hwidth
  | succ width ih =>
    by_cases hsmall : n < 16
    · rw [Nat.toDigits_of_lt_base hsmall, ← List.nil_append [Nat.digitChar n], padZeros_concat,
        hexDigits, Nat.div_eq_of_lt hsmall, Nat.mod_eq_of_lt hsmall, hexDigits_zero, padZeros]
      simp
    · have hquotient : n / 16 < 16 ^ width := by
        rw [Nat.div_lt_iff_lt_mul (by decide), ← Nat.pow_succ]
        exact h
      -- More than one digit needs room for more than one.
      have hroom : 0 < width := by
        rcases Nat.eq_zero_or_pos width with rfl | hpos
        · exact absurd h (by simpa using hsmall)
        · exact hpos
      rw [Nat.toDigits_of_base_le (by decide) (Nat.le_of_not_lt hsmall), padZeros_concat,
        ih hroom hquotient, hexDigits]

/-! ### The order of numbers -/

theorem compare_digitChar {a b : Nat} (ha : a < 16) (hb : b < 16) :
    compare (Nat.digitChar a).toNat (Nat.digitChar b).toNat = compare a b := by
  have hdigits : ∀ a < 16, ∀ b < 16,
      compare (Nat.digitChar a).toNat (Nat.digitChar b).toNat = compare a b := by decide
  exact hdigits a ha b hb

/-- Numbers are ordered by their quotients and then by their remainders. -/
theorem compare_div_then_mod (m n k : Nat) :
    (compare (m / k) (n / k)).then (compare (m % k) (n % k)) = compare m n := by
  have hm := Nat.div_add_mod m k
  have hn := Nat.div_add_mod n k
  rcases Nat.lt_trichotomy (m / k) (n / k) with hlt | heq | hgt
  · have hless : m < n := by
      by_contra hge
      exact absurd (Nat.div_le_div_right (Nat.le_of_not_lt hge)) (Nat.not_le_of_lt hlt)
    rw [Nat.compare_eq_lt.mpr hlt, Nat.compare_eq_lt.mpr hless]
    rfl
  · rw [heq, Nat.compare_eq_eq.mpr rfl, ← hm, ← hn, heq]
    rcases Nat.lt_trichotomy (m % k) (n % k) with h | h | h
    · rw [Nat.compare_eq_lt.mpr (Nat.add_lt_add_left h _), Nat.compare_eq_lt.mpr (by simpa using h)]
      rfl
    · rw [h, Nat.compare_eq_eq.mpr rfl, Nat.compare_eq_eq.mpr rfl]
      rfl
    · rw [Nat.compare_eq_gt.mpr (Nat.add_lt_add_left h _), Nat.compare_eq_gt.mpr (by simpa using h)]
      rfl
  · have hmore : n < m := by
      by_contra hle
      exact absurd (Nat.div_le_div_right (Nat.le_of_not_lt hle)) (Nat.not_le_of_lt hgt)
    rw [Nat.compare_eq_gt.mpr hgt, Nat.compare_eq_gt.mpr hmore]
    rfl

/-- **Digits are ordered as the numbers are.** -/
theorem compare_hexDigits {width m n : Nat} (hm : m < 16 ^ width) (hn : n < 16 ^ width) :
    compare (codes (hexDigits width m)) (codes (hexDigits width n)) = compare m n := by
  induction width generalizing m n with
  | zero =>
    rw [Nat.lt_one_iff.mp hm, Nat.lt_one_iff.mp hn]
    rfl
  | succ width ih =>
    have hlength : (codes (hexDigits width (m / 16))).length =
        (codes (hexDigits width (n / 16))).length := by
      simp [length_codes]
    have hquotients := ih ((Nat.div_lt_iff_lt_mul (by decide)).mpr hm)
      ((Nat.div_lt_iff_lt_mul (by decide)).mpr hn)
    have hdigits := compare_digitChar (Nat.mod_lt m (by decide)) (Nat.mod_lt n (by decide))
    rw [hexDigits, hexDigits, codes_append, codes_append, compare_append hlength, hquotients,
      codes_cons, codes_cons, List.compare_cons_cons, hdigits, ← compare_div_then_mod m n 16]
    exact congrArg _ Ordering.then_eq

/-! ### Reading back -/

theorem ofHex?_append (before : Nat) (s t : List Char) :
    ofHex? before (s ++ t) = (ofHex? before s).bind fun n => ofHex? n t := by
  induction s generalizing before with
  | nil => rfl
  | cons c s ih =>
    rw [List.cons_append, ofHex?, ofHex?]
    cases hexValue? c with
    | none => rfl
    | some d => exact ih _

theorem hexValue?_digitChar {d : Nat} (h : d < 16) : hexValue? (Nat.digitChar d) = some d := by
  have hdigits : ∀ d < 16, hexValue? (Nat.digitChar d) = some d := by decide
  exact hdigits d h

/-- **A number reads back from its digits.** -/
theorem ofHex?_hexDigits {width n : Nat} (h : n < 16 ^ width) :
    ofHex? 0 (hexDigits width n) = some n := by
  induction width generalizing n with
  | zero => rw [hexDigits, ofHex?, Nat.lt_one_iff.mp h]
  | succ width ih =>
    rw [hexDigits, ofHex?_append, ih ((Nat.div_lt_iff_lt_mul (by decide)).mpr h), Option.bind_some,
      ofHex?, hexValue?_digitChar (Nat.mod_lt n (by decide)), Option.bind_some, ofHex?,
      Nat.div_add_mod']

end ShardScan.Text
