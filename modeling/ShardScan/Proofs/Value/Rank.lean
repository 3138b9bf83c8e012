import Mathlib.Data.List.Forall2
import ShardScan.Proofs.Value.Decimals
import ShardScan.Proofs.Value.Typed

/-!
# The rank of a value

Values of different kinds need not compare, so the order of keys is no order on
all tuples.  Each value other than a floating-point number has a rank though, a
list of numbers, and where two such values compare they do as their ranks.  NULL
has the empty rank.  The values of one column type all compare.

Tuples then compare as the lists of their ranks, cut to one length.  The rank of
a whole tuple puts a beginning before what it begins, which is also how split
points are sorted.

## Main definitions

* `Value.rank`, `Tuple.ranks` — the rank of a value, and those of a tuple.
* `Value.Comparable`, `Tuple.Comparable` — the values compare and are no floating-point numbers; so
  do those of two tuples, as far as both go.
* `StoreType.IsRanked` — the types whose values are ordered by rank.
* `StoreType.AdmitsKey` — what a key column holds: NULL, or a value of a type that is ranked.
* `Tuple.Fits` — the values of a tuple are of the key's types, as far as both go.
* `Tuple.IsKey` — the tuple is a whole key.

## Main results

* `Value.Comparable.cmp_eq` — comparable values compare as their ranks.
* `Tuple.Comparable.compareKeys_eq` — so do comparable tuples, on the length that both have.
* `Value.cmp_eq_compare_rank`, `compareKeys_eq_compare` — values of one type and tuples of the key's
  types are comparable.
* `compareKeys_eq_of_isKey` — so are whole keys.
-/

namespace ShardScan

/-! ### Lists by their first difference -/

section Lists

variable {α : Type} [Ord α]

/-- Cutting two lists to one length does not turn their order round. -/
theorem compare_take_take_isLE {l m : List α} (h : (compare l m).isLE) (n : Nat) :
    (compare (l.take n) (m.take n)).isLE := by
  induction n generalizing l m with
  | zero => rfl
  | succ n ih =>
    cases l with
    | nil => cases m <;> rfl
    | cons a l =>
      cases m with
      | nil => cases h
      | cons b m =>
        rw [List.compare_cons_cons] at h
        rw [List.take_succ_cons, List.take_succ_cons, List.compare_cons_cons]
        cases hhead : compare a b with
        | lt => rfl
        | eq =>
          rw [hhead] at h
          exact ih h
        | gt =>
          rw [hhead] at h
          cases h

variable [Std.TransOrd α]

theorem compare_take_self_isLE (l : List α) (n : Nat) : (compare (l.take n) l).isLE := by
  induction l generalizing n with
  | nil => simp
  | cons a l ih =>
    cases n with
    | zero => rfl
    | succ n =>
      rw [List.take_succ_cons, List.compare_cons_cons, Std.ReflOrd.compare_self]
      exact ih n

/-- A list lies below another as soon as its beginning of that length does. -/
theorem compare_take_length_eq_lt_iff {l m : List α} :
    compare (l.take m.length) m = .lt ↔ compare l m = .lt := by
  constructor
  · intro h
    cases horder : compare l m with
    | lt => rfl
    | _ =>
      have hle : (compare m l).isLE := by
        rw [Std.OrientedOrd.eq_swap, horder]
        rfl
      have hcut := compare_take_take_isLE hle m.length
      rw [List.take_length] at hcut
      exact absurd h (Std.OrientedCmp.not_lt_of_isLE hcut)
  · exact Std.TransCmp.lt_of_isLE_of_lt (compare_take_self_isLE l m.length)

end Lists

/-! ### Values -/

namespace StoreType

/-- The values of the type are ordered by rank: they are no floating-point numbers. -/
def IsRanked (t : StoreType) : Prop := t.base ≠ .float ∧ t.base ≠ .double

/-- The value is NULL, or one of the type, which is then no floating-point type. -/
def AdmitsKey (t : StoreType) (v : Value) : Prop := ∀ c ∈ v.content?, t.IsRanked ∧ c.HasType t.base

@[simp] theorem admitsKey_null (t : StoreType) : t.AdmitsKey .null := nofun

theorem Admits.admitsKey {t : StoreType} {v : Value} (h : t.Admits v) (ht : t.IsRanked) :
    t.AdmitsKey v := fun c hc => ⟨ht, h c hc⟩

theorem AdmitsKey.admits {t : StoreType} {v : Value} (h : t.AdmitsKey v) : t.Admits v :=
  fun c hc => (h c hc).2

end StoreType

/-- Bytes as numbers. -/
def byteRanks (b : List UInt8) : List Int := b.map fun byte => (byte.toNat : Int)

theorem compare_toInt (m n : Nat) : compare (m : Int) (n : Int) = compare m n := by
  rcases Nat.lt_trichotomy m n with h | rfl | h
  · rw [Nat.compare_eq_lt.mpr h, Int.compare_eq_lt.mpr (Int.ofNat_lt.mpr h)]
  · rw [Std.ReflOrd.compare_self, Std.ReflOrd.compare_self]
  · rw [Nat.compare_eq_gt.mpr h, Int.compare_eq_gt.mpr (Int.ofNat_lt.mpr h)]

theorem compareBytes_eq_compare (a b : List UInt8) :
    Text.compareBytes a b = compare (byteRanks a) (byteRanks b) := by
  induction a generalizing b with
  | nil => cases b <;> rfl
  | cons x a ih =>
    cases b with
    | nil => rfl
    | cons y b =>
      rw [Text.compareBytes, ih b, ← compare_toInt]
      exact List.compare_cons_cons.symm

namespace Value

/-- The rank of what lies below the optional layers of a value. -/
def contentRank : Value → List Int
  | bool b => [b.toNat]
  | int _ n => [n.val]
  | decimal unscaled _ scale => [decimalUnits unscaled.val scale.val]
  | bytes b => 0 :: byteRanks b
  | text s => 0 :: byteRanks (Text.utf8 s)
  | date days => [days.val]
  | datetime seconds => [seconds.val]
  | timestamp micros => [micros.val]
  | interval micros => [micros.val]
  | uuid n => [n.val]
  | _ => [0]

/-- The rank of a value among those of its type. -/
def rank (v : Value) : List Int :=
  match v.content? with
  | none => []
  | some c => c.contentRank

end Value

theorem compare_cons_same (n : Int) (l m : List Int) : compare (n :: l) (n :: m) = compare l m := by
  rw [List.compare_cons_cons, Std.ReflOrd.compare_self, Ordering.then]

theorem compare_singleton (m n : Int) : compare [m] [n] = compare m n := by
  rw [List.compare_cons_cons]
  exact Ordering.then_eq

namespace Value

/-- The value is a floating-point number. -/
def isFloat : Value → Bool
  | float _ => true
  | double _ => true
  | _ => false

/-- The values compare, and neither is a floating-point number. -/
structure Comparable (a b : Value) : Prop where
  compares : (a.cmp b).isSome
  left : ∀ c ∈ a.content?, c.isFloat = false
  right : ∀ c ∈ b.content?, c.isFloat = false

instance (a b : Value) : Decidable (a.Comparable b) :=
  decidable_of_iff ((a.cmp b).isSome ∧ (∀ c ∈ a.content?, c.isFloat = false) ∧
      ∀ c ∈ b.content?, c.isFloat = false)
    ⟨fun ⟨compares, left, right⟩ => ⟨compares, left, right⟩, fun ⟨compares, left, right⟩ =>
      ⟨compares, left, right⟩⟩

/-- Values that compare are of one kind, but for integers of all widths, and bytes and text. -/
theorem cmpContent_eq_compare {a b : Value} (hcompares : (a.cmpContent b).isSome)
    (ha : a.isFloat = false) (hb : b.isFloat = false) :
    a.cmpContent b = some (compare a.contentRank b.contentRank) := by
  cases a with
  | null => cases b <;> cases hcompares
  | optional x => cases b <;> cases hcompares
  | float x => cases ha
  | double x => cases ha
  | bool x =>
    cases b <;> cases hcompares
    next y => cases x <;> cases y <;> rfl
  | bytes x =>
    cases b <;> cases hcompares <;>
      rw [contentRank, contentRank, compare_cons_same, ← compareBytes_eq_compare] <;> rfl
  | text x =>
    cases b <;> cases hcompares <;>
      rw [contentRank, contentRank, compare_cons_same, ← compareBytes_eq_compare] <;> rfl
  | int kind n =>
    cases b with
    | float y => cases hb
    | double y => cases hb
    | int kind' n' =>
      rw [contentRank, contentRank, compare_singleton]
      rfl
    | _ => cases hcompares
  | decimal x precision scale =>
    cases b <;> cases hcompares
    rw [contentRank, contentRank, compare_singleton, cmpContent,
      compareDecimals_eq_compare (Word.holds _) (Word.holds _) (Word.holds _) (Word.holds _)]
  | _ =>
    cases b <;> cases hcompares
    rw [contentRank, contentRank, compare_singleton]
    rfl

/-- NULL is the only value of its rank. -/
theorem exists_contentRank_eq_cons (c : Value) : ∃ n l, c.contentRank = n :: l := by
  cases c <;> exact ⟨_, _, rfl⟩

/-- **Comparable values compare as their ranks.** -/
theorem Comparable.cmp_eq {a b : Value} (h : a.Comparable b) :
    a.cmp b = some (compare a.rank b.rank) := by
  obtain ⟨hcompares, ha, hb⟩ := h
  unfold cmp at hcompares ⊢
  unfold rank
  -- NULL comes before all else, as its empty rank does.
  cases hca : a.content? with
  | none =>
    cases b.content? with
    | none => rfl
    | some d =>
      obtain ⟨n, l, hrank⟩ := d.exists_contentRank_eq_cons
      dsimp only
      rw [hrank, List.compare_nil_cons]
  | some c =>
    cases hcb : b.content? with
    | none =>
      obtain ⟨n, l, hrank⟩ := c.exists_contentRank_eq_cons
      dsimp only
      rw [hrank, List.compare_cons_nil]
    | some d =>
      rw [hca, hcb] at hcompares
      exact cmpContent_eq_compare hcompares (ha c hca) (hb d hcb)

/-- NULL is comparable with what is no floating-point number. -/
theorem Comparable.null {a b : Value} (h : a.Comparable b) : Comparable .null b := by
  refine ⟨?_, nofun, h.right⟩
  unfold cmp
  cases b.content? <;> rfl

/-- Values of one type compare. -/
theorem HasType.isSome_cmpContent {a b : Value} {t : StoreType} (ht : t ≠ .float ∧ t ≠ .double)
    (ha : a.HasType t) (hb : b.HasType t) : (a.cmpContent b).isSome := by
  cases ha with
  | float => exact absurd rfl ht.1
  | double => exact absurd rfl ht.2
  | _ =>
    cases hb
    rfl

theorem HasType.isFloat_eq {a : Value} {t : StoreType} (ht : t ≠ .float ∧ t ≠ .double)
    (ha : a.HasType t) : a.isFloat = false := by
  cases ha with
  | float => exact absurd rfl ht.1
  | double => exact absurd rfl ht.2
  | _ => rfl

theorem comparable_of_admitsKey {t : StoreType} {a b : Value} (ha : t.AdmitsKey a)
    (hb : t.AdmitsKey b) : a.Comparable b := by
  refine ⟨?_, fun c hc => (ha c hc).2.isFloat_eq (ha c hc).1, fun c hc =>
    (hb c hc).2.isFloat_eq (hb c hc).1⟩
  unfold cmp
  cases hca : a.content? with
  | none => cases b.content? <;> rfl
  | some c =>
    cases hcb : b.content? with
    | none => rfl
    | some d => exact HasType.isSome_cmpContent (ha c hca).1 (ha c hca).2 (hb d hcb).2

/-- **Values of one type compare as their ranks.** -/
theorem cmp_eq_compare_rank {t : StoreType} {a b : Value} (ha : t.AdmitsKey a)
    (hb : t.AdmitsKey b) : a.cmp b = some (compare a.rank b.rank) :=
  (comparable_of_admitsKey ha hb).cmp_eq

end Value

/-! ### Tuples -/

namespace Tuple

/-- The ranks of the values of a tuple. -/
def ranks (t : Tuple) : List (List Int) := t.map Value.rank

/-- The values of the tuple are of the given types or NULL, as far as both go. -/
def Fits (t : Tuple) (types : List StoreType) : Prop := ∀ p ∈ types.zip t, p.1.Admits p.2

@[simp] theorem length_ranks (t : Tuple) : t.ranks.length = t.length := List.length_map ..

@[simp] theorem ranks_take (t : Tuple) (n : Nat) : ranks (t.take n) = t.ranks.take n :=
  List.map_take ..

theorem fits_cons {v : Value} {t : Tuple} {type : StoreType} {types : List StoreType} :
    Fits (v :: t) (type :: types) ↔ type.Admits v ∧ Fits t types := by
  rw [Fits, List.zip_cons_cons, List.forall_mem_cons]
  rfl

end Tuple

/-- The values of the tuples are comparable, as far as both go. -/
def Tuple.Comparable (a b : Tuple) : Prop := ∀ p ∈ a.zip b, p.1.Comparable p.2

instance (a b : Tuple) : Decidable (a.Comparable b) :=
  inferInstanceAs (Decidable (∀ p ∈ a.zip b, p.1.Comparable p.2))

namespace Tuple

theorem comparable_cons {v w : Value} {a b : Tuple} :
    Comparable (v :: a) (w :: b) ↔ v.Comparable w ∧ Comparable a b := by
  rw [Comparable, List.zip_cons_cons, List.forall_mem_cons]
  rfl

/-- **Comparable tuples compare as their ranks** on the length that both have. -/
theorem Comparable.compareKeys_eq {a b : Tuple} (h : a.Comparable b) :
    compareKeys a b = compare (a.ranks.take b.length) (b.ranks.take a.length) := by
  induction a generalizing b with
  | nil => simp [ranks]
  | cons v a ih =>
    cases b with
    | nil => simp [ranks]
    | cons w b =>
      obtain ⟨hv, ht⟩ := comparable_cons.mp h
      rw [compareKeys_cons, hv.cmp_eq, ih ht]
      exact List.compare_cons_cons.symm

/-- Tuples of the key's types are comparable if one of them is not longer than the key. -/
theorem Fits.comparable {types : List StoreType} (htypes : ∀ t ∈ types, t.IsRanked) {a b : Tuple}
    (ha : a.Fits types) (hb : b.Fits types)
    (hlength : a.length ≤ types.length ∨ b.length ≤ types.length) : a.Comparable b := by
  induction a generalizing b types with
  | nil => exact nofun
  | cons v a ih =>
    cases b with
    | nil => exact nofun
    | cons w b =>
      cases types with
      -- A tuple that is longer than the key has met one that is not.
      | nil => rcases hlength with h | h <;> simp at h
      | cons type types =>
        obtain ⟨hv, ha⟩ := fits_cons.mp ha
        obtain ⟨hw, hb⟩ := fits_cons.mp hb
        have ht : type.IsRanked := htypes type List.mem_cons_self
        have hrest := ih (fun t ht => htypes t (List.mem_cons_of_mem type ht)) ha hb
          (hlength.imp Nat.le_of_succ_le_succ Nat.le_of_succ_le_succ)
        exact comparable_cons.mpr
          ⟨Value.comparable_of_admitsKey (hv.admitsKey ht) (hw.admitsKey ht), hrest⟩

end Tuple

/-- **Tuples of the key's types compare as their ranks** on the length that both have, if one of
them is not longer than the key. -/
theorem compareKeys_eq_compare {types : List StoreType} (htypes : ∀ t ∈ types, t.IsRanked)
    {a b : Tuple} (ha : a.Fits types) (hb : b.Fits types)
    (hlength : a.length ≤ types.length ∨ b.length ≤ types.length) :
    compareKeys a b = compare (a.ranks.take b.length) (b.ranks.take a.length) :=
  (ha.comparable htypes hb hlength).compareKeys_eq

/-! ### Whole keys -/

/-- The tuple is a whole key: it has, for each of the types, NULL or a value of the type that is no
floating-point number. -/
def Tuple.IsKey (key : Tuple) (types : List StoreType) : Prop :=
  List.Forall₂ StoreType.AdmitsKey types key

/-- **Whole keys compare as their ranks.** -/
theorem compareKeys_eq_of_isKey {types : List StoreType} {a b : Tuple} (ha : a.IsKey types)
    (hb : b.IsKey types) : compareKeys a b = compare a.ranks b.ranks := by
  induction ha generalizing b with
  | nil =>
    cases hb
    rfl
  | cons hv _ ih =>
    cases hb with
    | cons hw hb =>
      rw [compareKeys_cons, Value.cmp_eq_compare_rank hv hw, ih hb]
      exact List.compare_cons_cons.symm

end ShardScan
