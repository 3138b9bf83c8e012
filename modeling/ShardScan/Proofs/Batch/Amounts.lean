import ShardScan.Proofs.Batch.Fitting
import ShardScan.Proofs.Coercion.Bounds

/-!
# What a value becomes in a batch

A value of a batch denotes what stands in the rows, with two exceptions.  A column
of nulls takes any value and turns it into NULL.  And a decimal comes under the
precision and scale of its column without being brought to that scale: the
unscaled number stays, so that another scale makes another number of it, unless it
is zero.  Rows with either of them make a batch all the same.

## Main definitions

* `Scalar.SameValue` — values that denote the same, decimals as the numbers they are.
* `EngineType.Keeps` — the values that a column of the type does not change.

## Main results

* `EngineType.hold?_sameValue_iff` — a cell denotes the value that it was made of just when the
  column keeps it.
* `batch_values` — **the values of a batch, and which of them are changed.**
-/

namespace ShardScan

/-- The values are one and the same, or decimals that are one number. -/
inductive Scalar.SameValue : Scalar → Scalar → Prop
  | refl (v : Scalar) : SameValue v v
  | decimal (m n : Word .i128) (p q : Word .u8) (s t : Word .i8)
    (h : (m.val : ℚ) * 10 ^ (-s.val) = n.val * 10 ^ (-t.val)) :
    SameValue (.decimal m p s) (.decimal n q t)

namespace Scalar

/-- A number at two scales is one number only if it is zero or the scales are one. -/
theorem mul_zpow_eq_iff (m s t : Int) :
    (m : ℚ) * 10 ^ (-s) = m * 10 ^ (-t) ↔ m = 0 ∨ s = t := by
  by_cases hm : m = 0
  · simp [hm]
  · have hpow : Function.Injective fun e : Int => (10 : ℚ) ^ e :=
      zpow_right_injective₀ (by norm_num) (by norm_num)
    have hcast : (m : ℚ) ≠ 0 := by exact_mod_cast hm
    rw [mul_right_inj' hcast, or_iff_right hm]
    constructor
    · intro h
      have := hpow h
      omega
    · intro h
      rw [h]

theorem sameValue_decimal_iff (m : Word .i128) (p q : Word .u8) (s t : Word .i8) :
    (decimal m p s).SameValue (decimal m q t) ↔ m.val = 0 ∨ t = s := by
  rw [Word.ext_iff, eq_comm (a := t.val), ← mul_zpow_eq_iff]
  constructor
  · intro h
    cases h with
    | refl => rfl
    | decimal _ _ _ _ _ _ h => exact h
  · intro h
    exact .decimal m m p q s t h

theorem null_sameValue_iff {v : Scalar} : null.SameValue v ↔ v = null := by
  constructor
  · intro h
    cases h
    rfl
  · rintro rfl
    exact .refl null

end Scalar

namespace EngineType

/-- A column of the type does not change the value. -/
def Keeps : EngineType → Scalar → Prop
  | null, v => v = .null
  | decimal128 _ scale, .decimal unscaled _ own => unscaled.val = 0 ∨ own = scale
  | _, _ => True

variable {t : EngineType} {v cell : Scalar}

theorem keeps_null (t : EngineType) : t.Keeps .null := by
  cases t <;> trivial

/-- **A cell denotes the value that it was made of** just when the column keeps it. -/
theorem hold?_sameValue_iff (h : t.hold? v = some cell) : cell.SameValue v ↔ t.Keeps v := by
  have hsame : ∀ v : Scalar, v.SameValue v ↔ True := fun v => iff_true_intro (.refl v)
  unfold hold? at h
  split at h
  case h_1 v =>
    cases h
    exact Scalar.null_sameValue_iff
  case h_2 =>
    cases h
    exact iff_of_true (.refl _) (keeps_null _)
  case h_4 =>
    split at h
    · cases h
      exact hsame _
    · cases h
  case h_10 =>
    cases h
    exact Scalar.sameValue_decimal_iff ..
  all_goals
    cases h
    try exact hsame _

end EngineType

/-- **The values of a batch.**  At each row and field there is a value.  It denotes what stands there
in the rows just when the column keeps that: everything but a value other than NULL in a column of
nulls, and a decimal other than zero in a column of another scale.  It is NULL for NULL and in a
column of nulls, and otherwise it has the same payload. -/
theorem batch_values (schema : Schema) (rows : List (List Scalar)) (b : RecordBatch)
    (h : RecordBatch.ofRows schema rows = .ok b) (i j : Nat) (row : List Scalar) (f : Field)
    (v : Scalar) (hrow : rows[i]? = some row) (hf : schema.fields[j]? = some f)
    (hv : row[j]? = some v) :
    ∃ cell, b.cell? i j = some cell ∧ (cell.SameValue v ↔ f.type.Keeps v) ∧
      (cell = .null ↔ f.type = .null ∨ v = .null) ∧
      (f.type ≠ .null → cell.payload = v.payload) := by
  obtain ⟨cell, hcell, hget⟩ := RecordBatch.cell?_ofRows h hrow hf hv
  refine ⟨cell, hget, EngineType.hold?_sameValue_iff hcell, ?_, ?_⟩
  · by_cases ht : f.type = .null
    · rw [ht, EngineType.hold?] at hcell
      cases hcell
      exact iff_of_true rfl (.inl ht)
    · have hpayload := (EngineType.hold?_eq_some ht hcell).1
      rw [or_iff_right ht, ← Scalar.payload_eq_null_iff, hpayload, Scalar.payload_eq_null_iff]
  · intro ht
    exact (EngineType.hold?_eq_some ht hcell).1

/-- A price with two digits behind the point, in a column with two and in one with three. -/
theorem batch_values_price :
    ∃ b, RecordBatch.ofRows
        (.ofFields [.plain "price" (.decimal128 6 2) true, .plain "exact" (.decimal128 6 3) true])
        [[.decimal 1299 4 2, .decimal 1299 4 2]] = .ok b ∧
      (∃ cell, b.cell? 0 0 = some cell ∧ cell.SameValue (.decimal 1299 4 2)) ∧
      ∃ cell, b.cell? 0 1 = some cell ∧ ¬ cell.SameValue (.decimal 1299 4 2) := by
  have hbatch : RecordBatch.ofRows
      (.ofFields [.plain "price" (.decimal128 6 2) true, .plain "exact" (.decimal128 6 3) true])
      [[.decimal 1299 4 2, .decimal 1299 4 2]] = .ok ⟨1, [⟨.decimal128 6 2, [.decimal 1299 6 2]⟩,
        ⟨.decimal128 6 3, [.decimal 1299 6 3]⟩]⟩ := by rfl
  have hcells := batch_values _ _ _ hbatch
  obtain ⟨price, hprice, hsame, -⟩ := hcells 0 0 _ _ _ rfl rfl rfl
  obtain ⟨finer, hfiner, hother, -⟩ := hcells 0 1 _ _ _ rfl rfl rfl
  refine ⟨_, hbatch, ⟨price, hprice, hsame.mpr (.inr rfl)⟩, finer, hfiner, fun h => ?_⟩
  rcases hother.mp h with hzero | hscale
  · exact absurd hzero (by decide)
  · exact absurd hscale (by decide)

/-- A decimal that becomes another number, and a number that becomes NULL. -/
theorem renumbered_and_erased :
    (∃ b, RecordBatch.ofRows (.ofFields [.plain "price" (.decimal128 3 2) true])
        [[.decimal 5 3 1]] = .ok b ∧ b.cell? 0 0 = some (.decimal 5 3 2) ∧
        ¬ (Scalar.decimal 5 3 2).SameValue (.decimal 5 3 1)) ∧
      ∃ b, RecordBatch.ofRows (.ofFields [.plain "id" .null true]) [[.int .int32 7]] = .ok b ∧
        b.cell? 0 0 = some .null ∧ ¬ Scalar.null.SameValue (.int .int32 7) := by
  refine ⟨⟨_, rfl, rfl, ?_⟩, _, rfl, rfl, ?_⟩
  · rw [Scalar.sameValue_decimal_iff]
    decide
  · rw [Scalar.null_sameValue_iff]
    nofun

end ShardScan
