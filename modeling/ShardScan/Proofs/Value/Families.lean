import ShardScan.Proofs.Coercion.Bounds
import ShardScan.Proofs.Value.Rank

/-!
# The order of a family

Values of some kinds compare with each other: integers of all widths, decimals of
all scales, byte strings with texts, and each of the other kinds within itself.
The values of such a family, NULL among them, always compare, and they are totally
preordered.  Integers and decimals are ordered as the numbers they are, without
rounding: where a product of the comparison is too great for a machine word, the
sign that decides instead decides rightly.

Keys that have values of the same families in the same places are preordered too,
by the first place in which they differ.

## Main definitions

* `Family`, `Family.Admits` — the families, and the values that belong to one.
* `Value.rational?` — the number that an integer or a decimal is.
* `Tuple.Precedes`, `Tuple.Ties` — at the first place that differs the one value is below the other;
  no place differs.

## Main results

* `Family.cmp_eq_compare_rational` — integers and decimals compare as rational numbers.
* `compareKeys_eq_lt_iff_precedes`, `compareKeys_eq_eq_iff_ties` — keys compare by the first
  difference.
* `key_order` — **families and keys are totally preordered.**
-/

namespace ShardScan

/-- A family of values that compare with each other. -/
inductive Family
  | bool
  /-- Integers of all widths. -/
  | integer
  /-- Decimals of all scales. -/
  | decimal
  /-- Byte strings and texts. -/
  | bytes
  | date
  | datetime
  | timestamp
  | interval
  | uuid
deriving DecidableEq

/-- The family of a value without optional layers.  Floating-point numbers have none. -/
def Value.family? : Value → Option Family
  | bool _ => some .bool
  | int _ _ => some .integer
  | decimal _ _ _ => some .decimal
  | bytes _ => some .bytes
  | text _ => some .bytes
  | date _ => some .date
  | datetime _ => some .datetime
  | timestamp _ => some .timestamp
  | interval _ => some .interval
  | uuid _ => some .uuid
  | null => none
  | optional _ => none
  | float _ => none
  | double _ => none

/-- The number that an integer or a decimal is, under any number of optional layers. -/
def Value.rational? : Value → Option ℚ
  | optional inner => inner.rational?
  | int _ n => some n.val
  | decimal unscaled _ scale => some (unscaled.val * 10 ^ (-scale.val))
  | _ => none

namespace Family

/-- The value is NULL or, under any number of optional layers, one of the family. -/
def Admits (f : Family) (v : Value) : Prop := ∀ c ∈ v.content?, c.family? = some f

instance (f : Family) (v : Value) : Decidable (f.Admits v) :=
  inferInstanceAs (Decidable (∀ c ∈ v.content?, c.family? = some f))

/-- The values of a family, NULL among them. -/
abbrev Member (f : Family) : Type := { v : Value // f.Admits v }

end Family

/-! ### Values of one family -/

namespace Value

variable {a b c d : Value} {f : Family}

theorem isFloat_of_family? (h : c.family? = some f) : c.isFloat = false := by
  cases c <;> first | rfl | cases h

/-- Contents of one family compare. -/
theorem isSome_cmpContent (hc : c.family? = some f) (hd : d.family? = some f) :
    (c.cmpContent d).isSome := by
  cases c with
  | null => cases hc
  | optional x => cases hc
  | float x => cases hc
  | double x => cases hc
  | _ =>
    -- What a value of a family does not compare with is of another one, or of none.
    cases d <;> first | rfl | cases hc.trans hd.symm

theorem comparable_of_admits (ha : f.Admits a) (hb : f.Admits b) : a.Comparable b := by
  refine ⟨?_, fun c hc => isFloat_of_family? (ha c hc), fun d hd => isFloat_of_family? (hb d hd)⟩
  unfold cmp
  cases hca : a.content? with
  | none => cases b.content? <;> rfl
  | some c =>
    cases hdb : b.content? with
    | none => rfl
    | some d => exact isSome_cmpContent (ha c hca) (hb d hdb)

theorem exists_content? (h : a.isNull = false) : ∃ c, a.content? = some c := by
  unfold isNull at h
  cases hc : a.content? with
  | none =>
    rw [hc] at h
    cases h
  | some c => exact ⟨c, rfl⟩

/-! ### Numbers -/

theorem rational?_of_content? (h : a.content? = some c) : a.rational? = c.rational? := by
  induction a with
  | null => cases h
  | optional inner ih => exact ih h
  | _ =>
    cases h
    rfl

/-- Decimals compare as the numbers they are, whatever their scales. -/
theorem compareDecimals_eq_compare_rational (m n : Word .i128) (s t : Word .i8) :
    compareDecimals m.val s.val n.val t.val =
      compare ((m.val : ℚ) * 10 ^ (-s.val)) (n.val * 10 ^ (-t.val)) := by
  have hscale : ∀ s : Word .i8, s.val ≤ 127 := fun s => Int.le_of_lt_add_one s.holds.2
  rw [compareDecimals_eq_compare m.holds s.holds n.holds t.holds, compare_scaled]
  exact (compare_decimalUnits m.val n.val (hscale s) (hscale t)).symm

/-- Contents of one family that are numbers compare as these. -/
theorem cmpContent_eq_compare_rational (hc : c.family? = some f) (hd : d.family? = some f) {x y : ℚ}
    (hx : c.rational? = some x) (hy : d.rational? = some y) :
    c.cmpContent d = some (compare x y) := by
  cases c with
  | int kind m =>
    cases d with
    | int kind' n =>
      cases hx
      cases hy
      rw [compare_congr Int.cast_lt Int.cast_lt]
      rfl
    | decimal n q t => cases hc.trans hd.symm
    | optional inner => cases hd
    | _ => cases hy
  | decimal m p s =>
    cases d with
    | decimal n q t =>
      cases hx
      cases hy
      rw [cmpContent, compareDecimals_eq_compare_rational]
    | int kind n => cases hc.trans hd.symm
    | optional inner => cases hd
    | _ => cases hy
  | optional inner => cases hc
  | _ => cases hx

/-- What is not NULL in the families of numbers is a number. -/
theorem exists_rational (hc : c.family? = some f) (hf : f = .integer ∨ f = .decimal) :
    ∃ x, c.rational? = some x := by
  rcases hf with rfl | rfl <;> cases c <;> first | exact ⟨_, rfl⟩ | cases hc

end Value

namespace Family

variable {f : Family}

/-- The values of a family compare as their ranks. -/
theorem cmp_eq_compare_rank (a b : f.Member) :
    a.1.cmp b.1 = some (compare a.1.rank b.1.rank) :=
  (Value.comparable_of_admits a.2 b.2).cmp_eq

/-- NULL is equal to itself and below all else. -/
theorem cmp_of_isNull (a b : f.Member) (ha : a.1.isNull = true) :
    a.1.cmp b.1 = some (if b.1.isNull then .eq else .lt) := by
  have hnone : a.1.content? = none := Option.isNone_iff_eq_none.mp ha
  rw [Value.cmp, hnone, Value.isNull]
  cases b.1.content? <;> rfl

/-- **Integers and decimals compare as the numbers they are.** -/
theorem cmp_eq_compare_rational (hf : f = .integer ∨ f = .decimal) (a b : f.Member)
    (ha : a.1.isNull = false) (hb : b.1.isNull = false) :
    ∃ x y, a.1.rational? = some x ∧ b.1.rational? = some y ∧ a.1.cmp b.1 = some (compare x y) := by
  obtain ⟨c, hc⟩ := Value.exists_content? ha
  obtain ⟨d, hd⟩ := Value.exists_content? hb
  have hfc := a.2 c hc
  have hfd := b.2 d hd
  obtain ⟨x, hx⟩ := Value.exists_rational hfc hf
  obtain ⟨y, hy⟩ := Value.exists_rational hfd hf
  refine ⟨x, y, (Value.rational?_of_content? hc).trans hx,
    (Value.rational?_of_content? hd).trans hy, ?_⟩
  rw [Value.cmp, hc, hd]
  exact Value.cmpContent_eq_compare_rational hfc hfd hx hy

end Family

/-! ### Keys -/

namespace Tuple

/-- The tuple has, for each of the families, NULL or a value of it. -/
def DrawnFrom (t : Tuple) (families : List Family) : Prop :=
  List.Forall₂ Family.Admits families t

/-- The keys that have values of the given families. -/
abbrev Drawn (families : List Family) : Type := { t : Tuple // t.DrawnFrom families }

/-- At the first place in which the tuples differ, the first one has the lesser value. -/
inductive Precedes : Tuple → Tuple → Prop
  | here {v w : Value} {a b : Tuple} (h : v.cmp w = some .lt) : Precedes (v :: a) (w :: b)
  | later {v w : Value} {a b : Tuple} (h : v.cmp w = some .eq) (rest : Precedes a b) :
    Precedes (v :: a) (w :: b)

/-- The tuples differ in no place. -/
def Ties (a b : Tuple) : Prop := List.Forall₂ (fun v w => v.cmp w = some .eq) a b

theorem precedes_cons {v w : Value} {a b : Tuple} :
    Precedes (v :: a) (w :: b) ↔ v.cmp w = some .lt ∨ v.cmp w = some .eq ∧ Precedes a b := by
  constructor
  · intro h
    cases h with
    | here h => exact .inl h
    | later h rest => exact .inr ⟨h, rest⟩
  · rintro (h | ⟨h, rest⟩)
    · exact .here h
    · exact .later h rest

variable {a b : Tuple} {families : List Family}

theorem DrawnFrom.comparable (ha : a.DrawnFrom families) (hb : b.DrawnFrom families) :
    a.Comparable b := by
  induction ha generalizing b with
  | nil => exact nofun
  | cons hv _ ih =>
    cases hb with
    | cons hw hb => exact comparable_cons.mpr ⟨Value.comparable_of_admits hv hw, ih hb⟩

end Tuple

section Keys

variable {families : List Family} {a b : Tuple}

/-- Keys of the same families compare as their ranks. -/
theorem compareKeys_eq_compare_ranks (ha : a.DrawnFrom families) (hb : b.DrawnFrom families) :
    compareKeys a b = compare a.ranks b.ranks := by
  have hlength : a.length = b.length := ha.length_eq.symm.trans hb.length_eq
  rw [(ha.comparable hb).compareKeys_eq, List.take_of_length_le (by simp [hlength]),
    List.take_of_length_le (by simp [hlength])]

/-- **A key is below another by the first place in which they differ.** -/
theorem compareKeys_eq_lt_iff_precedes (ha : a.DrawnFrom families) (hb : b.DrawnFrom families) :
    compareKeys a b = .lt ↔ a.Precedes b := by
  -- The induction is on the families of both keys: the first values are of one family and compare.
  induction ha generalizing b with
  | nil =>
    cases hb
    exact ⟨nofun, nofun⟩
  | @cons f v families a hv _ ih =>
    cases hb with
    | @cons _ w _ b hw hb =>
      have hcmp := Family.cmp_eq_compare_rank (f := f) ⟨v, hv⟩ ⟨w, hw⟩
      rw [compareKeys_cons, Tuple.precedes_cons, hcmp, ← ih hb]
      cases compare v.rank w.rank <;> simp

/-- **Keys that are in no order differ nowhere.** -/
theorem compareKeys_eq_eq_iff_ties (ha : a.DrawnFrom families) (hb : b.DrawnFrom families) :
    compareKeys a b = .eq ↔ a.Ties b := by
  induction ha generalizing b with
  | nil =>
    cases hb
    exact iff_of_true rfl .nil
  | @cons f v families a hv _ ih =>
    cases hb with
    | @cons _ w _ b hw hb =>
      have hcmp := Family.cmp_eq_compare_rank (f := f) ⟨v, hv⟩ ⟨w, hw⟩
      rw [compareKeys_cons, Tuple.Ties, List.forall₂_cons, hcmp, ← Tuple.Ties, ← ih hb]
      cases compare v.rank w.rank <;> simp

end Keys

/-- **The order of keys.**  The values of a family, each NULL or under any number of optional
layers, always compare.  They are totally preordered, NULL least, and integers and decimals are
ordered as the rational numbers they are, whatever their widths and scales.  The keys that have
values of given families are totally preordered, too: one is below another if at the first place in
which they differ it has the lesser value, and they tie if they differ nowhere. -/
theorem key_order (f : Family) (families : List Family) :
    (∃ order : f.Member → f.Member → Ordering,
      (∀ a b, a.1.cmp b.1 = some (order a b)) ∧ Std.TransCmp order ∧
      (∀ a b, a.1.isNull = true → order a b = if b.1.isNull then .eq else .lt) ∧
      (f = .integer ∨ f = .decimal → ∀ a b, a.1.isNull = false → b.1.isNull = false →
        ∃ x y, a.1.rational? = some x ∧ b.1.rational? = some y ∧ order a b = compare x y)) ∧
    Std.TransCmp (fun a b : Tuple.Drawn families => compareKeys a.1 b.1) ∧
    ∀ a b : Tuple.Drawn families,
      (compareKeys a.1 b.1 = .lt ↔ a.1.Precedes b.1) ∧
      (compareKeys a.1 b.1 = .eq ↔ a.1.Ties b.1) := by
  -- Ranks order all values, and those of a family compare, so that they are ordered as their ranks.
  refine ⟨⟨fun a b => compare a.1.rank b.1.rank, Family.cmp_eq_compare_rank, ?_, ?_, ?_⟩, ?_,
    fun a b => ⟨compareKeys_eq_lt_iff_precedes a.2 b.2, compareKeys_eq_eq_iff_ties a.2 b.2⟩⟩
  · exact inferInstanceAs (Std.TransCmp (compareOn fun a : f.Member => a.1.rank))
  · intro a b ha
    have hcmp := Family.cmp_of_isNull a b ha
    rw [Family.cmp_eq_compare_rank a b] at hcmp
    exact Option.some.inj hcmp
  · intro hf a b ha hb
    obtain ⟨x, y, hx, hy, hcmp⟩ := Family.cmp_eq_compare_rational hf a b ha hb
    rw [Family.cmp_eq_compare_rank a b] at hcmp
    exact ⟨x, y, hx, hy, Option.some.inj hcmp⟩
  · have hranks : (fun a b : Tuple.Drawn families => compareKeys a.1 b.1) =
        fun a b => compare a.1.ranks b.1.ranks := by
      funext a b
      exact compareKeys_eq_compare_ranks a.2 b.2
    rw [hranks]
    exact inferInstanceAs (Std.TransCmp (compareOn fun a : Tuple.Drawn families => a.1.ranks))

/-- Two prices, the greater one with all digits before the point and the other with 38 behind it, so
that bringing them to one scale exceeds 128 bits; and two editions of a title, the second one
later. -/
theorem key_order_prices :
    (Value.decimal 170141183460469231731687303715884105727 39 38).cmp (.optional (.decimal 2 1 0)) =
        some .lt ∧
      compareKeys [.text "Blue", .int .int8 1] [.bytes [66, 108, 117, 101], .int .uint64 2] =
        .lt := by
  obtain ⟨⟨order, horder, -, -, hnumbers⟩, -⟩ := key_order .decimal []
  obtain ⟨-, -, hkeys⟩ := key_order .bool [.bytes, .integer]
  refine ⟨?_, (hkeys ⟨_, ?_⟩ ⟨_, ?_⟩).1.mpr (.later (by decide +kernel) (.here (by decide)))⟩
  · have hlow : Family.decimal.Admits (.decimal 170141183460469231731687303715884105727 39 38) := by
      decide
    have hhigh : Family.decimal.Admits (.optional (.decimal 2 1 0)) := by decide
    obtain ⟨x, y, hx, hy, hcompare⟩ := hnumbers (.inr rfl) ⟨_, hlow⟩ ⟨_, hhigh⟩ rfl rfl
    have hx' : x = (170141183460469231731687303715884105727 : Int) * 10 ^ (-38 : Int) :=
      (Option.some.inj hx).symm
    have hy' : y = (2 : Int) * 10 ^ (-0 : Int) := (Option.some.inj hy).symm
    rw [horder ⟨_, hlow⟩ ⟨_, hhigh⟩, hcompare, compare_lt_iff_lt.mpr]
    rw [hx', hy']
    norm_num
  · exact .cons (by decide) (.cons (by decide) .nil)
  · exact .cons (by decide) (.cons (by decide) .nil)

end ShardScan
