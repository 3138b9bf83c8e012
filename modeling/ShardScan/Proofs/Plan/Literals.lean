import ShardScan.Proofs.Coercion.Bounds
import ShardScan.Proofs.Value.Rank

/-!
# Literals of a column's kind

A column of whole numbers is compared with whole numbers of any width, and a
column of texts with texts.  Such a literal is stored as what it is, if it is
stored at all, so it has a rank among the values of the column: the column and
the literal, two literals, and the column and the stored literal all compare as
their ranks.

## Main definitions

* `Scalar.OfKind` — a literal is of the kind of a type.
* `Scalar.rank` — the rank of a literal among the values of its kind.
* `Value.EqualTo`, `Value.AtLeast`, `Value.AtMost` — where a value lies beside a literal; NULL lies
  below all of them.

## Main results

* `Value.cmp_stored` — a column compares with a stored literal as the ranks do.
-/

namespace ShardScan

/-! ### Literals -/

namespace Scalar

/-- Whole numbers of every width are of one kind, and texts are of another. -/
inductive OfKind : Scalar → StoreType → Prop
  | int (kind kind' : IntKind) (n : Word kind'.format) : OfKind (.int kind' n) (.int kind)
  | text (s : String) : OfKind (.utf8 s) .text

/-- The rank of a literal, as that of the value that it is stored as. -/
def rank : Scalar → List Int
  | int _ n => [n.val]
  | utf8 s => 0 :: byteRanks (Text.utf8 s)
  | _ => []

variable {l m : Scalar} {t : StoreType}

theorem OfKind.isNull_eq (h : l.OfKind t) : l.isNull = false := by
  cases h <;> rfl

theorem OfKind.ne_null (h : l.OfKind t) : l ≠ .null := by
  rintro rfl
  cases h

theorem OfKind.isRanked (h : l.OfKind t.base) : t.IsRanked := by
  unfold StoreType.IsRanked
  generalize t.base = base at h
  cases h <;> exact ⟨nofun, nofun⟩

theorem OfKind.exists_rank_eq_cons (h : l.OfKind t) : ∃ n rest, l.rank = n :: rest := by
  cases h <;> exact ⟨_, _, rfl⟩

/-- Literals of one kind compare as their ranks. -/
theorem OfKind.naturalCmp_eq (hl : l.OfKind t) (hm : m.OfKind t) :
    l.naturalCmp m = some (compare l.rank m.rank) := by
  cases hl with
  | int =>
    cases hm with
    | int =>
      rw [rank, rank, compare_singleton]
      rfl
  | text s =>
    cases hm with
    | text s' =>
      rw [rank, rank, compare_cons_same, ← compareBytes_eq_compare]
      rfl

/-- A literal that is stored has the rank of what is stored. -/
theorem OfKind.contentRank_eq {c : Value} (hl : l.OfKind t) (h : l.toStorePlain t = .ok c) :
    c.contentRank = l.rank := by
  cases hl with
  | int kind kind' n =>
    obtain ⟨n', hn', h⟩ := Except.bind_eq_ok_iff.mp h
    cases hn'
    obtain ⟨w, hw, h⟩ := Except.bind_eq_ok_iff.mp h
    cases h
    rw [rank, Value.contentRank, narrow_eq_ok hw]
  | text s =>
    cases h
    rfl

end Scalar

/-! ### Values beside literals -/

namespace Value

/-- The value is the literal. -/
def EqualTo (v : Value) (l : Scalar) : Prop := v.toEngine.exactCmp l = some .eq

/-- The value does not lie below the literal.  NULL lies below every literal. -/
def AtLeast (v : Value) (l : Scalar) : Prop := ∃ o, v.toEngine.exactCmp l = some o ∧ o ≠ .lt

/-- The value does not lie above the literal.  NULL lies above none. -/
def AtMost (v : Value) (l : Scalar) : Prop :=
  v.isNull ∨ ∃ o, v.toEngine.exactCmp l = some o ∧ o ≠ .gt

variable {t : StoreType} {v : Value} {l : Scalar}

theorem exactCmp_eq_compare_rank {c : Value} (hv : t.Admits v) (hc : v.content? = some c)
    (hl : l.OfKind t.base) : v.toEngine.exactCmp l = some (compare v.rank l.rank) := by
  have htype := hv c hc
  simp only [toEngine_of_content? hc, rank, hc]
  generalize t.base = base at hl htype
  cases hl with
  | int =>
    cases htype with
    | int kind n =>
      rw [contentRank, Scalar.rank, compare_singleton]
      exact congrArg some (compare_congr Int.cast_lt Int.cast_lt)
  | text s =>
    cases htype with
    | text s' =>
      rw [contentRank, Scalar.rank, compare_cons_same, ← compareBytes_eq_compare]
      rfl

/-- NULL is ranked below every literal. -/
theorem compare_rank_of_null (hv : v.content? = none) (hl : l.OfKind t) :
    compare v.rank l.rank = .lt := by
  obtain ⟨n, rest, hrank⟩ := hl.exists_rank_eq_cons
  simp only [rank, hv, hrank, List.compare_nil_cons]

theorem exactCmp_of_null (hv : v.content? = none) : v.toEngine.exactCmp l = none := by
  rw [toEngine_eq_null_iff.mpr hv, Scalar.exactCmp_null_left]

theorem equalTo_iff (hv : t.Admits v) (hl : l.OfKind t.base) :
    v.EqualTo l ↔ compare v.rank l.rank = .eq := by
  cases hc : v.content? with
  | none => simp [EqualTo, exactCmp_of_null hc, compare_rank_of_null hc hl]
  | some c => simp [EqualTo, exactCmp_eq_compare_rank hv hc hl]

theorem atLeast_iff (hv : t.Admits v) (hl : l.OfKind t.base) :
    v.AtLeast l ↔ compare v.rank l.rank ≠ .lt := by
  cases hc : v.content? with
  | none => simp [AtLeast, exactCmp_of_null hc, compare_rank_of_null hc hl]
  | some c => simp [AtLeast, exactCmp_eq_compare_rank hv hc hl]

theorem atMost_iff (hv : t.Admits v) (hl : l.OfKind t.base) :
    v.AtMost l ↔ compare v.rank l.rank ≠ .gt := by
  cases hc : v.content? with
  | none => simp [AtMost, isNull, hc, compare_rank_of_null hc hl]
  | some c => simp [AtMost, isNull, hc, exactCmp_eq_compare_rank hv hc hl]

/-- **A column compares with a stored literal** as the ranks of the column and the literal do. -/
theorem cmp_stored {w : Value} (hv : t.Admits v) (hl : l.OfKind t.base)
    (hstore : l.toStoreKey t = .ok w) : v.cmp w = some (compare v.rank l.rank) := by
  obtain ⟨c, hc, hplain⟩ := Scalar.content?_of_toStore hl.ne_null hstore
  rw [StoreType.base_orNull] at hplain
  have hw : t.Admits w := by
    intro c' hc'
    cases hc.symm.trans hc'
    exact Scalar.hasType_of_toStorePlain hplain
  have hrank : w.rank = l.rank := by
    simp only [rank, hc, hl.contentRank_eq hplain]
  rw [cmp_eq_compare_rank (hv.admitsKey hl.isRanked) (hw.admitsKey hl.isRanked), hrank]

end Value

end ShardScan
