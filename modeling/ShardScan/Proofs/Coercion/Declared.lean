import Mathlib.Algebra.Order.Group.Unbundled.Int
import ShardScan.Proofs.Coercion.Failing
import ShardScan.Proofs.Coercion.Identifiers

/-!
# Values of the declared type

What is stored for an engine value is a value of the declared type: of its kind,
under its optional layer, and NULL only where the type admits it.  A value that was
read from a column of a type is stored in that type as the value it was.

One property of the type is not looked at.  A decimal comes with the declared
precision and scale, but the number of its digits is compared with the precision
nowhere, so that an amount that is too great is stored all the same.

## Main definitions

* `Value.Inhabits` — a value is one of a declared type.
* `Value.InPrecision` — a decimal has no more digits than it declares.
* `Scalar.FitsIn` — an engine value is an amount that a decimal type has digits for.

## Main results

* `Scalar.inhabits_of_toStore` — what is stored is of the declared type.
* `stored_again` — **what was read is stored as it was.**
* `stored_in_type` — **what is stored, and when it has more digits than declared.**
-/

namespace ShardScan

/-- The value is one of the declared type: NULL or a value under an optional layer if the type has
one, and a value of its kind if not. -/
inductive Value.Inhabits : Value → StoreType → Prop
  | plain {c : Value} {t : StoreType} (h : c.HasType t) : c.Inhabits t
  | null (t : StoreType) : Value.null.Inhabits (.optional t)
  | optional {v : Value} {t : StoreType} (h : v.Inhabits t) :
    (Value.optional v).Inhabits (.optional t)

/-- If the value is a decimal, its unscaled number has no more digits than its precision says. -/
def Value.InPrecision (v : Value) : Prop :=
  ∀ unscaled precision scale, v.content? = some (.decimal unscaled precision scale) →
    |unscaled.val| < 10 ^ precision.val.toNat

/-- If the type is a decimal type and the value an amount, the digits that the type has before the
point are enough for it. -/
def Scalar.FitsIn (s : Scalar) (t : StoreType) : Prop :=
  ∀ precision scale x, t.base = .decimal precision scale → s.rational? = some x →
    |x| < 10 ^ (precision.val - scale.val)

/-! ### Types with one optional layer at most -/

namespace StoreType

theorem base_of_isOptional {t : StoreType} (h : t.isOptional = false) : t.base = t := by
  cases t with
  | optional inner => cases h
  | _ => rfl

/-- A type with one optional layer at most has none, or it has one above a type without. -/
theorem plain_or_optional {t : StoreType} (h : t.layers ≤ 1) :
    t.isOptional = false ∨ ∃ u : StoreType, t = .optional u ∧ u.isOptional = false := by
  cases t with
  | optional u =>
    refine .inr ⟨u, rfl, ?_⟩
    cases u with
    | optional inner => simp [layers] at h
    | _ => rfl
  | _ => exact .inl rfl

end StoreType

namespace Value

variable {v : Value} {t : StoreType}

theorem HasType.isOptional_eq (h : v.HasType t) : v.isOptional = false := by
  cases h <;> rfl

/-- A value of a type without optional layers is of its kind. -/
theorem Inhabits.hasType (h : v.Inhabits t) (ht : t.isOptional = false) : v.HasType t := by
  cases h with
  | plain h => exact h
  | null t => cases ht
  | optional h => cases ht

theorem HasType.inhabits_orNull (h : v.HasType t) : v.orNull.Inhabits (.optional t) := by
  rw [orNull, h.isOptional_eq]
  exact .optional (.plain h)

end Value

namespace Scalar

variable {s : Scalar} {t : StoreType}

theorem toStore_of_isOptional (s : Scalar) (ht : t.isOptional = false) :
    s.toStore t = if s.isNull then .error (.nullForRequired t) else s.toStorePlain t := by
  cases t with
  | optional inner => cases ht
  | _ => rfl

/-! ### Storing what was read -/

theorem isNull_toEngine {c : Value} (h : c.HasType t) : c.toEngine.isNull = false := by
  cases h <;> rfl

/-- A value is stored in its type as it was. -/
theorem toStorePlain_toEngine {c : Value} (h : c.HasType t) :
    c.toEngine.toStorePlain t = .ok c := by
  cases h with
  | int kind n =>
    show (narrow _ _ kind.format n.val >>= fun w => pure (Value.int kind w)) = _
    rw [narrow, Word.ofInt?_val]
    rfl
  | decimal unscaled precision scale =>
    -- There is nothing to shift.
    have hshift : toUnscaled (.decimal unscaled precision scale) (.decimal precision scale) scale =
        .ok unscaled := by
      simp [toUnscaled, narrow]
    show (toUnscaled (.decimal unscaled precision scale) (.decimal precision scale) scale >>=
      fun w => pure (Value.decimal w precision scale)) = _
    rw [hshift]
    rfl
  | datetime seconds =>
    -- It was read as whole seconds, so that the division loses nothing.
    have hunit : Calendar.microsPerSecond ≠ 0 := by decide
    show (narrow _ _ .u32 (seconds.val * Calendar.microsPerSecond / Calendar.microsPerSecond) >>=
      fun w => pure (Value.datetime w)) = _
    rw [Int.mul_ediv_cancel _ hunit, narrow, Word.ofInt?_val]
    rfl
  | uuid n =>
    show (utf8 (uuidText n)).toStorePlain .uuid = _
    simp [toStorePlain, parseUuid?_uuidText]
  | _ => rfl

/-- A value of a type with one optional layer at most is stored in it as it was. -/
theorem toStore_toEngine {v : Value} (ht : t.layers ≤ 1) (hv : v.Inhabits t) :
    v.toEngine.toStore t = .ok v := by
  have hplain : ∀ {c : Value} {u : StoreType}, u.isOptional = false → c.HasType u →
      c.toEngine.toStore u = .ok c := by
    intro c u hu hc
    rw [toStore_of_isOptional _ hu, isNull_toEngine hc]
    exact toStorePlain_toEngine hc
  cases hv with
  | plain hc =>
    refine hplain ?_ hc
    cases hc <;> rfl
  | null u => rfl
  | @optional c u hc =>
    obtain hnone | ⟨u', hu', hplain'⟩ := StoreType.plain_or_optional ht
    · cases hnone
    · cases hu'
      have hc' := hc.hasType hplain'
      show c.toEngine.toStore (.optional u) = _
      rw [toStore, isNull_toEngine hc', hplain hplain' hc']
      show Except.ok c.orNull = _
      rw [Value.orNull, hc'.isOptional_eq]
      rfl

/-! ### Storing any value -/

/-- **What is stored is of the declared type.** -/
theorem inhabits_of_toStore (ht : t.layers ≤ 1) {v : Value} (h : s.toStore t = .ok v) :
    v.Inhabits t := by
  obtain hplain | ⟨u, rfl, hplain⟩ := StoreType.plain_or_optional ht
  · rw [toStore_of_isOptional s hplain] at h
    split at h
    · cases h
    · exact .plain (hasType_of_toStorePlain h)
  · rw [toStore] at h
    split at h
    · cases h
      exact .null u
    · obtain ⟨c, hc, h⟩ := Except.bind_eq_ok_iff.mp h
      cases h
      rw [toStore_of_isOptional s hplain] at hc
      split at hc
      · cases hc
      · exact (hasType_of_toStorePlain hc).inhabits_orNull

/-! ### Digits -/

/-- An amount that is brought to a scale has at most as many digits as declared just when it is
small enough; the digits that are cut off do not count. -/
theorem abs_tdiv_lt_iff (n own scale : Int) {precision : Int} (hprecision : 0 ≤ precision) :
    |(n * 10 ^ (scale - own).toNat).tdiv (10 ^ (own - scale).toNat)| < 10 ^ precision.toNat ↔
      |(n : ℚ) * 10 ^ (-own)| < 10 ^ (precision - scale) := by
  -- Both sides are integers at the finer one of the two scales.
  have hamount := mul_zpow_scale |n| own (max scale own) (le_max_right ..)
  have hroom := mul_zpow_scale 1 (scale - precision) (max scale own) (by omega)
  rw [show (max scale own - own).toNat = (scale - own).toNat by omega] at hamount
  have hplaces : (max scale own - (scale - precision)).toNat =
      precision.toNat + (own - scale).toNat := by omega
  rw [hplaces, show -(scale - precision) = precision - scale by omega, Int.cast_one, one_mul,
    one_mul] at hroom
  have hpos : (0 : ℚ) < 10 ^ max scale own := zpow_pos (by norm_num) _
  rw [abs_mul, abs_of_pos (zpow_pos (by norm_num : (0 : ℚ) < 10) (-own)), ← Int.cast_abs,
    ← mul_lt_mul_iff_left₀ hpos, hamount, hroom, Int.cast_lt, Int.abs_eq_natAbs, Int.natAbs_tdiv,
    Int.natAbs_mul, Int.natAbs_pow, Int.natAbs_pow, Int.abs_eq_natAbs]
  have hcut :
      n.natAbs * 10 ^ (scale - own).toNat / 10 ^ (own - scale).toNat < 10 ^ precision.toNat ↔
      n.natAbs * 10 ^ (scale - own).toNat < 10 ^ (precision.toNat + (own - scale).toNat) := by
    rw [Nat.div_lt_iff_lt_mul (Nat.pow_pos (by decide)), ← Nat.pow_add]
  exact_mod_cast hcut

theorem abs_lt_iff_of_toUnscaled {scale : Word .i8} {w : Word .i128}
    (h : s.toUnscaled t scale = .ok w) (precision : Word .u8) :
    |w.val| < 10 ^ precision.val.toNat ↔
      ∀ x, s.rational? = some x → |x| < 10 ^ (precision.val - scale.val) := by
  obtain ⟨n, own, hrational, hval⟩ := toUnscaled_eq_ok h
  have hprecision : 0 ≤ precision.val := precision.holds.1
  simp only [hval, abs_tdiv_lt_iff n own scale.val hprecision, hrational, Option.some.injEq,
    forall_eq']

/-- NULL is stored as NULL, if at all. -/
theorem content?_of_toStore_null {v : Value} (h : null.toStore t = .ok v) : v.content? = none := by
  cases t with
  | optional u =>
    cases h
    rfl
  | _ => cases h

theorem inPrecision_iff_of_content? {v c : Value} (h : v.content? = some c) :
    v.InPrecision ↔ ∀ unscaled precision scale, c = .decimal unscaled precision scale →
      |unscaled.val| < 10 ^ precision.val.toNat := by
  simp only [Value.InPrecision, h, Option.some.injEq]

/-- **A stored decimal has at most as many digits as declared** just when the amount is one that
they are enough for. -/
theorem inPrecision_iff {v : Value} (h : s.toStore t = .ok v) : v.InPrecision ↔ s.FitsIn t := by
  by_cases hnull : s = .null
  · subst hnull
    have hcontent := content?_of_toStore_null h
    refine iff_of_true (fun _ _ _ hdecimal => ?_) fun _ _ _ _ hx => ?_
    · cases hcontent.symm.trans hdecimal
    · cases hx
  · obtain ⟨c, hc, hplain⟩ := content?_of_toStore hnull h
    rw [inPrecision_iff_of_content? hc]
    by_cases hdecimal : ∃ precision scale, t.base = .decimal precision scale
    · obtain ⟨precision, scale, hbase⟩ := hdecimal
      rw [hbase] at hplain
      obtain ⟨w, hw, hstored⟩ := Except.bind_eq_ok_iff.mp hplain
      cases hstored
      have hdigits := abs_lt_iff_of_toUnscaled hw precision
      constructor
      · intro hin p q x ht hx
        cases hbase.symm.trans ht
        exact hdigits.mp (hin _ _ _ rfl) x hx
      · intro hfits p q r heq
        cases heq
        exact hdigits.mpr fun x hx => hfits _ _ _ hbase hx
    · have htype := hasType_of_toStorePlain hplain
      refine iff_of_true (fun _ _ _ heq => ?_) fun _ _ _ ht _ => ?_
      · rw [heq] at htype
        generalize t.base = u at htype hdecimal
        cases htype
        exact absurd ⟨_, _, rfl⟩ hdecimal
      · exact absurd ⟨_, _, ht⟩ hdecimal

end Scalar

/-- **What was read is stored as it was.**  A value of a type with one optional layer at most, read
by the engine and stored in the type again, is the same in every bit.  As a key value it has an
optional layer and the same content. -/
theorem stored_again (t : StoreType) (v : Value) (ht : t.layers ≤ 1) (hv : v.Inhabits t) :
    v.toEngine.toStore t = .ok v ∧
      ∃ key, v.toEngine.toStoreKey t = .ok key ∧ key.isOptional = true ∧
        key.content? = v.content? := by
  refine ⟨Scalar.toStore_toEngine ht hv, v.orNull, ?_, v.isOptional_orNull, v.content?_orNull⟩
  obtain hplain | ⟨u, rfl, hplain⟩ := StoreType.plain_or_optional ht
  · have hkey : t.orNull = .optional t := by simp [StoreType.orNull, hplain]
    rw [Scalar.toStoreKey, hkey, Scalar.toStore, Scalar.isNull_toEngine (hv.hasType hplain),
      Scalar.toStore_toEngine ht hv]
    rfl
  · have hkey : v.orNull = v := by
      cases hv with
      | plain h => cases h
      | null u => rfl
      | optional h => rfl
    rw [Scalar.toStoreKey, StoreType.orNull_optional, Scalar.toStore_toEngine ht hv, hkey]

/-- The identifier of a recording, which is read as a text, and a moment, which is read as
microseconds and stored under its optional layer. -/
theorem stored_again_recording :
    (Value.uuid 0x9f0c0000000000000000000000000a01).toEngine.toStore .uuid =
        .ok (.uuid 0x9f0c0000000000000000000000000a01) ∧
      (Value.optional (.datetime 4294967295)).toEngine.toStore (.optional .datetime) =
        .ok (.optional (.datetime 4294967295)) ∧
      ∃ key, (Value.uuid 0x9f0c0000000000000000000000000a01).toEngine.toStoreKey .uuid = .ok key ∧
        key.isOptional = true ∧
        key.content? = (Value.uuid 0x9f0c0000000000000000000000000a01).content? := by
  obtain ⟨hstored, hkey⟩ := stored_again .uuid (.uuid 0x9f0c0000000000000000000000000a01)
    (by decide) (.plain (.uuid _))
  obtain ⟨hmoment, -⟩ := stored_again (.optional .datetime) (.optional (.datetime 4294967295))
    (by decide) (.optional (.plain (.datetime _)))
  exact ⟨hstored, hmoment, hkey⟩

/-- **What is stored for a value.**  In a type with one optional layer at most it is a value of the
type, with the declared precision and scale if it is a decimal.  It has no more digits than the
precision says just when the type has digits enough for the amount.  What is not stored, where the
conversion stays within the integers of the machine, is a mismatch, out of range, or NULL for a type
without an optional layer. -/
theorem stored_in_type (s : Scalar) (t : StoreType) (ht : t.layers ≤ 1) :
    (∀ v, s.toStore t = .ok v → v.Inhabits t ∧ (v.InPrecision ↔ s.FitsIn t)) ∧
    ∀ e, s.toStore t = .error e → ¬ s.Overflows t →
      e = .mismatch s t.base ∨ e = .outOfRange s t.base ∨
        e = .nullForRequired t ∧ s = .null ∧ t.isOptional = false := by
  constructor
  · intro v hstored
    exact ⟨Scalar.inhabits_of_toStore ht hstored, Scalar.inPrecision_iff hstored⟩
  · intro e herror hoverflows
    rcases Scalar.toStore_eq_error herror with (⟨h | h, -⟩ | ⟨-, h⟩) | h
    · exact .inl h
    · exact .inr (.inl h)
    · exact absurd (Scalar.overflows_base_iff.mp h) hoverflows
    · exact .inr (.inr h)

/-- A price that loses its last digit, and a number that a narrow column does not hold. -/
theorem stored_in_type_price :
    (∃ v, (Scalar.decimal 12345 10 3).toStore (.optional (.decimal 4 2)) = .ok v ∧
      v.Inhabits (.optional (.decimal 4 2)) ∧ v.InPrecision) ∧
    ∃ e, (Scalar.int .int64 300).toStore (.int .int8) = .error e ∧
      (e = .mismatch (.int .int64 300) (.int .int8) ∨
        e = .outOfRange (.int .int64 300) (.int .int8)) := by
  constructor
  · obtain ⟨hstored, -⟩ :=
      stored_in_type (.decimal 12345 10 3) (.optional (.decimal 4 2)) (by decide)
    have hprice : (Scalar.decimal 12345 10 3).toStore (.optional (.decimal 4 2)) =
        .ok (.optional (.decimal 1234 4 2)) := by decide +kernel
    obtain ⟨hinhabits, hprecision⟩ := hstored _ hprice
    refine ⟨_, hprice, hinhabits, hprecision.mpr ?_⟩
    intro precision scale x htype hx
    cases htype
    have hamount : x = (12345 : Int) * 10 ^ (-3 : Int) := (Option.some.inj hx).symm
    have hroom : ((4 : Word .u8).val - (2 : Word .i8).val : Int) = 2 := by decide
    rw [hamount, hroom]
    norm_num
  · obtain ⟨-, hfails⟩ := stored_in_type (.int .int64 300) (.int .int8) (by decide)
    have herror : (Scalar.int .int64 300).toStore (.int .int8) =
        .error (.outOfRange (.int .int64 300) (.int .int8)) := by decide +kernel
    rcases hfails _ herror nofun with h | h | ⟨h, -⟩
    · exact ⟨_, herror, .inl h⟩
    · exact ⟨_, herror, .inr h⟩
    · cases h

/-- Five, in a column of two digits with both of them behind the point. -/
theorem stored_beyond_precision :
    ∃ v, (Scalar.int .int64 5).toStore (.decimal 2 2) = .ok v ∧ ¬ v.InPrecision := by
  refine ⟨.decimal 500 2 2, by decide +kernel, fun h => ?_⟩
  exact absurd (h 500 2 2 rfl) (by decide)

end ShardScan
