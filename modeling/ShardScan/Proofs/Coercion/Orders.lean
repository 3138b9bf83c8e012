import ShardScan.Proofs.Coercion.Bounds
import ShardScan.Proofs.Coercion.Identifiers

/-!
# The two orders of a column

The planner folds the bounds of a scan with the engine's order, and the store
filters its rows with its own.  On the values of one column the two agree, and
neither leaves a pair of them without an order, as long as the column holds no
floating-point numbers.

The engine reads most values as they are.  Seconds are read as microseconds, all
of them longer by the same factor; identifiers are read as texts, which are
ordered as the identifiers; and decimals at one scale are ordered as their
unscaled numbers, whatever their precisions, so that no value is divided.

## Main definitions

* `Value.IsOf` — a value of a type, but for the precision of a decimal.
* `StoreType.Holds` — one under any number of optional layers, and so not NULL.

## Main results

* `Value.IsOf.naturalCmp_eq` — the orders agree below optional layers.
* `naturalCmp_toEngine` — **the orders agree on the values of a column.**
-/

namespace ShardScan

/-! ### Values at the scale of their column -/

/-- A value without optional layers is one of a type without them.  A decimal has the scale of the
type and any precision. -/
inductive Value.IsOf : Value → StoreType → Prop
  | ofType {c : Value} {t : StoreType} (h : c.HasType t) : c.IsOf t
  | decimal (unscaled : Word .i128) (own precision : Word .u8) (scale : Word .i8) :
    (Value.decimal unscaled own scale).IsOf (.decimal precision scale)

/-- The value is not NULL, and below optional layers it is one of the type below its own. -/
def StoreType.Holds (t : StoreType) (v : Value) : Prop := ∃ c, v.content? = some c ∧ c.IsOf t.base

/-! ### Single kinds of values -/

/-- At one scale decimals are ordered as their unscaled numbers. -/
@[simp] theorem compareDecimals_scale (a b s : Int) : compareDecimals a s b s = compare a b := by
  simp [compareDecimals]

namespace Value

theorem cmpContent_decimal (m n : Word .i128) (p q : Word .u8) (scale : Word .i8) :
    (decimal m p scale).cmpContent (decimal n q scale) = some (m.cmp n) := by
  simp [cmpContent, Word.cmp]

theorem naturalCmp_decimal (m n : Word .i128) (p q : Word .u8) (scale : Word .i8) :
    (decimal m p scale).toEngine.naturalCmp (decimal n q scale).toEngine = some (m.cmp n) :=
  if_pos rfl

/-- Microseconds are ordered as the seconds that they were read from. -/
theorem naturalCmp_datetime (m n : Word .u32) :
    (datetime m).toEngine.naturalCmp (datetime n).toEngine = some (m.cmp n) := by
  have hunit : 0 < Calendar.microsPerSecond := by decide
  show some (compare (m.val * Calendar.microsPerSecond) (n.val * Calendar.microsPerSecond)) = _
  rw [compare_mul_right m.val n.val hunit, Word.cmp]

/-- The texts of identifiers are ordered as the identifiers. -/
theorem naturalCmp_uuid (m n : Word .u128) :
    (uuid m).toEngine.naturalCmp (uuid n).toEngine = some (m.cmp n) := by
  show some (Text.compareText (uuidText m) (uuidText n)) = _
  rw [compareText_uuidText]

/-! ### Values of a type -/

/-- Two values of a type are decimals at its scale, or they are of the type in every respect. -/
theorem isOf_cases {c d : Value} {t : StoreType} (hc : c.IsOf t) (hd : d.IsOf t) :
    (∃ m p n q scale, c = decimal m p scale ∧ d = decimal n q scale) ∨
      (c.HasType t ∧ d.HasType t) := by
  cases hc with
  | decimal m p q scale =>
    cases hd with
    | decimal n p' => exact .inl ⟨m, p, n, p', scale, rfl, rfl⟩
    | ofType hd =>
      cases hd
      exact .inl ⟨m, p, _, q, scale, rfl, rfl⟩
  | ofType hc =>
    cases hd with
    | decimal n p' q scale =>
      cases hc
      exact .inl ⟨_, q, n, p', scale, rfl, rfl⟩
    | ofType hd => exact .inr ⟨hc, hd⟩

/-- **The orders agree below optional layers.** -/
theorem IsOf.naturalCmp_eq {c d : Value} {t : StoreType} (ht : t ≠ .float ∧ t ≠ .double)
    (hc : c.IsOf t) (hd : d.IsOf t) :
    c.toEngine.naturalCmp d.toEngine = c.cmpContent d ∧ c.cmpContent d ≠ none := by
  rcases isOf_cases hc hd with ⟨m, p, n, q, scale, rfl, rfl⟩ | ⟨hc, hd⟩
  · rw [naturalCmp_decimal, cmpContent_decimal]
    exact ⟨rfl, Option.some_ne_none _⟩
  · refine ⟨?_, Option.isSome_iff_ne_none.mp (hc.isSome_cmpContent ht hd)⟩
    cases hc with
    | float x => exact absurd rfl ht.1
    | double x => exact absurd rfl ht.2
    | decimal m p scale =>
      cases hd
      rw [naturalCmp_decimal, cmpContent_decimal]
    | datetime m =>
      cases hd
      exact naturalCmp_datetime _ _
    | uuid m =>
      cases hd
      exact naturalCmp_uuid _ _
    | _ =>
      -- All else is read as it is.
      cases hd
      rfl

end Value

/-- **The orders agree on the values of a column.**  The column is of any type other than a
floating-point type, under any number of optional layers; a decimal in it has the column's scale.
Then the engine orders two of its values, neither of them NULL, as the store does, and neither
leaves them without an order. -/
theorem naturalCmp_toEngine (t : StoreType) (a b : Value) (ht : t.IsRanked) (ha : t.Holds a)
    (hb : t.Holds b) : a.toEngine.naturalCmp b.toEngine = a.cmp b ∧ a.cmp b ≠ none := by
  obtain ⟨c, hca, hc⟩ := ha
  obtain ⟨d, hdb, hd⟩ := hb
  have hcmp : a.cmp b = c.cmpContent d := by simp [Value.cmp, hca, hdb]
  rw [Value.toEngine_of_content? hca, Value.toEngine_of_content? hdb, hcmp]
  exact hc.naturalCmp_eq ht hd

/-- The identifiers of two recordings, one of them under an optional layer. -/
theorem naturalCmp_toEngine_recordings :
    StoreType.IsRanked (.optional .uuid) ∧
      StoreType.Holds (.optional .uuid) (.optional (.uuid 0x9f000000000000000000000000000000)) ∧
      StoreType.Holds (.optional .uuid) (.uuid 0xa0000000000000000000000000000000) ∧
      (Value.optional (.uuid 0x9f000000000000000000000000000000)).toEngine.naturalCmp
          (Value.uuid 0xa0000000000000000000000000000000).toEngine = some .lt ∧
      (Value.optional (.uuid 0x9f000000000000000000000000000000)).cmp
          (.uuid 0xa0000000000000000000000000000000) = some .lt := by
  have htype : StoreType.IsRanked (.optional .uuid) := ⟨nofun, nofun⟩
  have hleft : StoreType.Holds (.optional .uuid)
      (.optional (.uuid 0x9f000000000000000000000000000000)) := ⟨_, rfl, .ofType (.uuid _)⟩
  have hright : StoreType.Holds (.optional .uuid) (.uuid 0xa0000000000000000000000000000000) :=
    ⟨_, rfl, .ofType (.uuid _)⟩
  have hcmp : (Value.optional (.uuid 0x9f000000000000000000000000000000)).cmp
      (.uuid 0xa0000000000000000000000000000000) = some .lt := by decide +kernel
  obtain ⟨hagree, -⟩ := naturalCmp_toEngine _ _ _ htype hleft hright
  exact ⟨htype, hleft, hright, hagree.trans hcmp, hcmp⟩

end ShardScan
