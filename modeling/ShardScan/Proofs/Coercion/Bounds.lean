import Mathlib.Data.Rat.Lemmas
import Mathlib.Algebra.Order.Field.Rat
import Mathlib.Algebra.Order.Field.Power
import Mathlib.Tactic.Linarith
import ShardScan.Coercion.Values
import ShardScan.Proofs.Outcome
import ShardScan.Proofs.Text.Order
import ShardScan.Proofs.Value.Typed

/-!
# Literals as key bounds

A literal that is stored in the type of a key column may lose digits or parts
of a second.  What is lost never moves a value of the column to the other side:
the stored literal and the column are ordered as the literal and the column
were, or have become equal.

## Main definitions

* `Scalar.exactCmp` — the order of engine values without rounding.
* `StoreType.IsExact` — the types whose values the engine reads without loss of order.

## Main results

* `Value.cmp_of_exactCmp` — a stored literal bounds a column wherever the literal does.
-/

namespace ShardScan

/-! ### The exact order of engine values -/

namespace Scalar

/-- The number that an integer or a decimal is. -/
def rational? : Scalar → Option ℚ
  | int _ n => some n.val
  | decimal unscaled _ scale => some (unscaled.val * 10 ^ (-scale.val))
  | _ => none

/-- The order of two engine values: integers and decimals as the numbers they are, each of the
other kinds within itself.  Values of different kinds do not compare, nor does NULL. -/
def exactCmp : Scalar → Scalar → Option Ordering
  | boolean a, boolean b => some (compare a.toNat b.toNat)
  | float32 a, float32 b => a.cmp b
  | float64 a, float64 b => a.cmp b
  | utf8 a, utf8 b => some (Text.compareText a b)
  | binary a, binary b => some (Text.compareBytes a b)
  | date a, date b => some (a.cmp b)
  | timestamp a, timestamp b => some (a.cmp b)
  | duration a, duration b => some (a.cmp b)
  | a, b => a.rational?.bind fun x => b.rational?.map fun y => compare x y

theorem exactCmp_null_right (v : Scalar) : v.exactCmp null = none := by
  cases v <;> rfl

theorem exactCmp_null_left (v : Scalar) : null.exactCmp v = none := by
  cases v <;> rfl

end Scalar

/-! ### Rounding -/

/-- A number and a whole number of units lie as the quotient does, however the number was rounded
to units, or the quotient is that many. -/
theorem compare_quotient (u q : Int) {r f : Int} (hlow : -f < r) (hhigh : r < f) :
    compare u q = compare (u * f) (q * f + r) ∨ compare u q = .eq := by
  rcases lt_trichotomy u q with hlt | heq | hgt
  · left
    have hunit : (u + 1) * f ≤ q * f := Int.mul_le_mul_of_nonneg_right hlt (by omega)
    rw [Int.add_mul, Int.one_mul] at hunit
    rw [compare_lt_iff_lt.mpr hlt, eq_comm, compare_lt_iff_lt]
    omega
  · exact .inr (compare_eq_iff_eq.mpr heq)
  · left
    have hunit : (q + 1) * f ≤ u * f := Int.mul_le_mul_of_nonneg_right hgt (by omega)
    rw [Int.add_mul, Int.one_mul] at hunit
    rw [compare_gt_iff_gt.mpr hgt, eq_comm, compare_gt_iff_gt]
    omega

/-- A quotient cut off toward zero. -/
theorem compare_tdiv (u n : Int) {f : Int} (hf : 0 < f) :
    compare u (n.tdiv f) = compare (u * f) n ∨ compare u (n.tdiv f) = .eq := by
  have hform : n.tdiv f * f + n.tmod f = n := Int.tdiv_mul_add_tmod n f
  have hhigh : n.tmod f < f := Int.tmod_lt_of_pos n hf
  have hlow : -f < n.tmod f := by
    have := Int.lt_tmod_of_pos n hf
    omega
  have hquotient := compare_quotient u (n.tdiv f) hlow hhigh
  rwa [hform] at hquotient

/-- A quotient rounded down. -/
theorem compare_ediv (u n : Int) {f : Int} (hf : 0 < f) :
    compare u (n / f) = compare (u * f) n ∨ compare u (n / f) = .eq := by
  have hform : n / f * f + n % f = n := Int.ediv_mul_add_emod n f
  have hlow : -f < n % f := by
    have := Int.emod_nonneg n (by omega : f ≠ 0)
    omega
  have hquotient := compare_quotient u (n / f) hlow (Int.emod_lt_of_pos n hf)
  rwa [hform] at hquotient

/-- Pairs that are ordered alike compare alike. -/
theorem compare_congr {α β : Type} [LinearOrder α] [LinearOrder β] {a b : α} {c d : β}
    (hlt : a < b ↔ c < d) (hgt : b < a ↔ d < c) : compare a b = compare c d := by
  rcases lt_trichotomy a b with h | h | h
  · rw [compare_lt_iff_lt.mpr h, compare_lt_iff_lt.mpr (hlt.mp h)]
  · have hcd : c = d := le_antisymm (not_lt.mp fun hdc => (hgt.mpr hdc).ne h.symm)
      (not_lt.mp fun hcd => (hlt.mpr hcd).ne h)
    rw [compare_eq_iff_eq.mpr h, compare_eq_iff_eq.mpr hcd]
  · rw [compare_gt_iff_gt.mpr h, compare_gt_iff_gt.mpr (hgt.mp h)]

/-- A number at some scale, in units of a scale that is at least as fine. -/
theorem mul_zpow_scale (u s m : Int) (h : s ≤ m) :
    (u : ℚ) * 10 ^ (-s) * 10 ^ m = ((u * 10 ^ (m - s).toNat : Int) : ℚ) := by
  have hexp : ((m - s).toNat : Int) = m - s := Int.toNat_of_nonneg (by omega)
  rw [mul_assoc, ← zpow_add₀ (by norm_num), Int.cast_mul, Int.cast_pow, ← zpow_natCast, hexp]
  congr 2
  omega

/-- Decimals of two scales are ordered as integers at the finer one. -/
theorem compare_scaled (u n s t : Int) :
    compare ((u : ℚ) * 10 ^ (-s)) (n * 10 ^ (-t)) =
      compare (u * 10 ^ (t - s).toNat) (n * 10 ^ (s - t).toNat) := by
  have hpos : (0 : ℚ) < 10 ^ max s t := zpow_pos (by norm_num) _
  have hu := mul_zpow_scale u s (max s t) (le_max_left s t)
  have hn := mul_zpow_scale n t (max s t) (le_max_right s t)
  rw [show (max s t - s).toNat = (t - s).toNat by omega] at hu
  rw [show (max s t - t).toNat = (s - t).toNat by omega] at hn
  apply compare_congr
  · rw [← mul_lt_mul_iff_left₀ hpos, hu, hn, Int.cast_lt]
  · rw [← mul_lt_mul_iff_left₀ hpos, hu, hn, Int.cast_lt]

/-! ### Stored literals -/

namespace Scalar

theorem refuse_ne_ok {α : Type} (v : Scalar) (e : CoercionError) (a : α) : v.refuse e ≠ .ok a := by
  unfold refuse
  split <;> nofun

theorem narrow_eq_ok {v : Scalar} {target : StoreType} {f : WordFormat} {n : Int} {w : Word f}
    (h : v.narrow target f n = .ok w) : w.val = n := by
  unfold narrow at h
  split at h
  · next w' hw =>
    cases h
    exact Word.ofInt?_eq_some_iff.mp hw
  · exact absurd h (v.refuse_ne_ok _ w)

/-- A number at the declared scale is the literal without its excess digits. -/
theorem toUnscaled_eq_ok {v : Scalar} {target : StoreType} {scale : Word .i8} {w : Word .i128}
    (h : v.toUnscaled target scale = .ok w) :
    ∃ n own : Int, v.rational? = some ((n : ℚ) * 10 ^ (-own)) ∧
      w.val = (n * 10 ^ (scale.val - own).toNat).tdiv (10 ^ (own - scale.val).toNat) := by
  have hrescale : ∀ n own : Int,
      (if 38 < (scale.val - own).natAbs then v.refuse (.outOfRange v target)
        else if 0 ≤ scale.val - own then
          v.narrow target .i128 (n * (Nat.pow 10 (scale.val - own).natAbs : Nat))
        else v.narrow target .i128 (n.tdiv (Nat.pow 10 (scale.val - own).natAbs : Nat))) = .ok w →
      w.val = (n * 10 ^ (scale.val - own).toNat).tdiv (10 ^ (own - scale.val).toNat) := by
    intro n own h
    split at h
    · exact absurd h (v.refuse_ne_ok _ w)
    · split at h
      · next hle =>
        rw [narrow_eq_ok h, show (own - scale.val).toNat = 0 by omega,
          show (scale.val - own).natAbs = (scale.val - own).toNat by omega]
        simp
      · next hlt =>
        rw [narrow_eq_ok h, show (scale.val - own).toNat = 0 by omega,
          show (scale.val - own).natAbs = (own - scale.val).toNat by omega]
        simp
  cases v with
  | decimal unscaled precision own => exact ⟨unscaled.val, own.val, rfl, hrescale _ _ h⟩
  | int kind n => exact ⟨n.val, 0, by simp [rational?], hrescale _ _ h⟩
  | _ => exact absurd h (refuse_ne_ok _ _ w)

/-- A decimal column and a literal at its scale. -/
theorem compare_toUnscaled {u w : Word .i128} {precision : Word .u8} {scale : Word .i8}
    {l : Scalar} {target : StoreType} {o : Ordering} (h : l.toUnscaled target scale = .ok w)
    (hcmp : (decimal u precision scale).exactCmp l = some o) :
    compare u.val w.val = o ∨ compare u.val w.val = .eq := by
  obtain ⟨n, own, hrational, hw⟩ := toUnscaled_eq_ok h
  have ho : compare ((u.val : ℚ) * 10 ^ (-scale.val)) (n * 10 ^ (-own)) = o := by
    have hbind : (decimal u precision scale).exactCmp l =
        l.rational?.map fun y => compare ((u.val : ℚ) * 10 ^ (-scale.val)) y := by
      cases l <;> rfl
    rw [hbind, hrational] at hcmp
    exact Option.some.inj hcmp
  rw [compare_scaled] at ho
  rw [hw, ← ho]
  exact compare_tdiv _ _ (by positivity)

end Scalar

namespace StoreType

/-- The values of the type are read without loss of order. -/
def IsExact (t : StoreType) : Prop := t.base ≠ .float ∧ t.base ≠ .double ∧ t.base ≠ .uuid

end StoreType

namespace Value

/-- A stored literal bounds a value of its type wherever the literal does. -/
theorem cmpContent_of_exactCmp {c c' : Value} {t : StoreType} {l : Scalar} {o : Ordering}
    (hc : c.HasType t) (ht : t.IsExact) (hstore : l.toStorePlain t = .ok c')
    (hcmp : c.toEngine.exactCmp l = some o) :
    c.cmpContent c' = some o ∨ c.cmpContent c' = some .eq := by
  -- Only decimals and seconds are rounded when they are stored; all else is stored as it is.
  cases hc with
  | bool b =>
    cases l <;> cases hcmp
    cases hstore
    exact .inl rfl
  | int kind n =>
    obtain ⟨m, hm, h⟩ := Except.bind_eq_ok_iff.mp hstore
    obtain ⟨w, hw, h⟩ := Except.bind_eq_ok_iff.mp h
    cases h
    have hval := Scalar.narrow_eq_ok hw
    cases l with
    -- Whole numbers are compared by value, whatever their kinds.
    | int kind' n' =>
      cases hm
      have ho : compare (n.val : ℚ) n'.val = o := Option.some.inj hcmp
      left
      rw [← ho, compare_congr Int.cast_lt Int.cast_lt, ← hval]
      rfl
    | utf8 s => cases hcmp
    | _ => exact absurd hm (Scalar.refuse_ne_ok _ _ m)
  | float x => exact absurd rfl ht.1
  | double x => exact absurd rfl ht.2.1
  | decimal unscaled precision scale =>
    obtain ⟨w, hw, h⟩ := Except.bind_eq_ok_iff.mp hstore
    cases h
    have hsame : (decimal unscaled precision scale).cmpContent (decimal w precision scale) =
        some (compare unscaled.val w.val) := by
      simp [cmpContent, compareDecimals]
    rw [hsame]
    exact (Scalar.compare_toUnscaled hw hcmp).imp (congrArg some) (congrArg some)
  | bytes b =>
    cases l <;> cases hcmp
    cases hstore
    exact .inl rfl
  | text s =>
    cases l <;> cases hcmp
    cases hstore
    exact .inl rfl
  | date days =>
    cases l <;> cases hcmp
    cases hstore
    exact .inl rfl
  | datetime seconds =>
    cases l <;> cases hcmp
    next micros =>
      obtain ⟨micros', hmicros, h⟩ := Except.bind_eq_ok_iff.mp hstore
      cases hmicros
      obtain ⟨w, hw, h⟩ := Except.bind_eq_ok_iff.mp h
      cases h
      have hval := Scalar.narrow_eq_ok hw
      have hside := compare_ediv seconds.val micros.val
        (show 0 < Calendar.microsPerSecond by decide)
      rw [← hval] at hside
      exact hside.imp (congrArg some) (congrArg some)
  | timestamp micros =>
    cases l <;> cases hcmp
    cases hstore
    exact .inl rfl
  | interval micros =>
    cases l <;> cases hcmp
    cases hstore
    exact .inl rfl
  | uuid n => exact absurd rfl ht.2.2

/-- A value is read as what lies below its optional layers. -/
theorem toEngine_of_content? {v c : Value} (h : v.content? = some c) :
    v.toEngine = c.toEngine := by
  induction v with
  | null => cases h
  | optional inner ih => exact ih h
  | _ => cases h; rfl

/-- Only NULL is read as NULL. -/
theorem toEngine_eq_null_iff {v : Value} : v.toEngine = .null ↔ v.content? = none := by
  induction v with
  | optional inner ih => exact ih
  | null => exact ⟨fun _ => rfl, fun _ => rfl⟩
  | _ =>
    constructor
    · intro h
      cases h
    · intro h
      cases h

end Value

namespace Scalar

/-- What is stored in a type is of that type. -/
theorem hasType_of_toStorePlain {l : Scalar} {t : StoreType} {c : Value}
    (h : l.toStorePlain t = .ok c) : c.HasType t := by
  cases t with
  | int kind =>
    obtain ⟨m, hm, h⟩ := Except.bind_eq_ok_iff.mp h
    obtain ⟨w, hw, h⟩ := Except.bind_eq_ok_iff.mp h
    cases h
    exact .int kind w
  | decimal precision scale =>
    obtain ⟨w, hw, h⟩ := Except.bind_eq_ok_iff.mp h
    cases h
    exact .decimal w precision scale
  | datetime =>
    obtain ⟨micros, hmicros, h⟩ := Except.bind_eq_ok_iff.mp h
    obtain ⟨w, hw, h⟩ := Except.bind_eq_ok_iff.mp h
    cases h
    exact .datetime w
  | timestamp =>
    obtain ⟨micros, hmicros, h⟩ := Except.bind_eq_ok_iff.mp h
    cases h
    exact .timestamp micros
  | optional inner => exact absurd h (l.refuse_ne_ok _ c)
  | _ =>
    simp only [toStorePlain] at h
    repeat' split at h
    -- What is no failure is known, or narrows an integer.
    all_goals
      first
      | exact absurd h (refuse_ne_ok _ _ c)
      | cases h
        constructor
      | obtain ⟨w, hw, h⟩ := Except.bind_eq_ok_iff.mp h
        cases h
        constructor

/-- Below its optional layers a literal is stored as in the type below them. -/
theorem content?_of_toStore {l : Scalar} {t : StoreType} {w : Value} (hl : l ≠ .null)
    (h : l.toStore t = .ok w) : ∃ c, w.content? = some c ∧ l.toStorePlain t.base = .ok c := by
  have hnull : l.isNull = false := by
    cases l with
    | null => exact absurd rfl hl
    | _ => rfl
  induction t generalizing w with
  | optional inner ih =>
    rw [toStore, if_neg (by simp [hnull])] at h
    obtain ⟨w', hw', h⟩ := Except.bind_eq_ok_iff.mp h
    cases h
    obtain ⟨c, hc, hplain⟩ := ih hw'
    exact ⟨c, by rw [Value.content?_orNull, hc], hplain⟩
  | _ =>
    rw [toStore, if_neg (by simp [hnull])] at h
    · exact ⟨w, (hasType_of_toStorePlain h).content?_eq, h⟩
    · intro inner
      nofun

/-- NULL is stored as NULL. -/
theorem content?_of_toStoreKey_null {t : StoreType} {w : Value} (h : null.toStoreKey t = .ok w) :
    w.content? = none := by
  obtain ⟨inner, hinner⟩ : ∃ inner, t.orNull = .optional inner := by
    cases t <;> exact ⟨_, rfl⟩
  rw [toStoreKey, hinner] at h
  cases h
  rfl

end Scalar

namespace Value

/-- **A stored literal bounds a column wherever the literal does**: the two are ordered alike, or
equal. -/
theorem cmp_of_exactCmp {t : StoreType} {v w : Value} {l : Scalar} {o : Ordering}
    (hv : t.Admits v) (ht : t.IsExact) (hstore : l.toStoreKey t = .ok w)
    (hcmp : v.toEngine.exactCmp l = some o) : v.cmp w = some o ∨ v.cmp w = some .eq := by
  have hl : l ≠ .null := by
    rintro rfl
    rw [Scalar.exactCmp_null_right] at hcmp
    cases hcmp
  obtain ⟨c', hc', hplain⟩ := Scalar.content?_of_toStore hl hstore
  rw [StoreType.base_orNull] at hplain
  cases hc : v.content? with
  | none =>
    rw [toEngine_eq_null_iff.mpr hc, Scalar.exactCmp_null_left] at hcmp
    cases hcmp
  | some c =>
    rw [toEngine_of_content? hc] at hcmp
    have hexact : t.base.IsExact := by
      rw [StoreType.IsExact, StoreType.base_base]
      exact ht
    simp only [cmp, hc, hc']
    exact cmpContent_of_exactCmp (hv c hc) hexact hplain hcmp

/-- NULL as a stored literal is equal to a column that is NULL. -/
theorem cmp_of_null {t : StoreType} {v w : Value} (hstore : Scalar.null.toStoreKey t = .ok w)
    (hv : v.toEngine = .null) : v.cmp w = some .eq := by
  simp only [cmp, toEngine_eq_null_iff.mp hv, Scalar.content?_of_toStoreKey_null hstore]

end Value

end ShardScan
