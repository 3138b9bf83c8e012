import ShardScan.KeyRange
import ShardScan.Proofs.Value.Rank

/-!
# Bounds on full keys

A bound cuts the full keys of a table in two, and where it does so depends on
the ranks of its values within the length of the key; what it has beyond that
does not count.  A shard starts at its first point and ends before the next, and
a planned range includes both of its ends.  Of two such ranges the common part
contains the keys that both contain.

## Main definitions

* `Tuple.cut` — the ranks of a tuple within the length of the key.
* `Tuple.IsFullKey` — the tuple is a key with values of the key's types.
* `KeyRange.IsShard`, `KeyRange.IsPlanned` — the two kinds of ranges.

## Main results

* `KeyRange.contains_inter` — membership in the common part of a shard and a planned range.
-/

namespace ShardScan

/-! ### Lists cut to one length -/

section Lists

variable {α : Type} [Ord α]

theorem compare_succ_succ (j k : Nat) : compare (j + 1) (k + 1) = compare j k := by
  rcases Nat.lt_trichotomy j k with h | rfl | h
  · rw [Nat.compare_eq_lt.mpr h, Nat.compare_eq_lt.mpr (Nat.succ_lt_succ h)]
  · rw [Std.ReflOrd.compare_self, Std.ReflOrd.compare_self]
  · rw [Nat.compare_eq_gt.mpr h, Nat.compare_eq_gt.mpr (Nat.succ_lt_succ h)]

/-- Lists are ordered by their first difference and then by their lengths. -/
theorem compare_eq_then_length (l m : List α) :
    (compare (l.take m.length) (m.take l.length)).then (compare l.length m.length) =
      compare l m := by
  induction l generalizing m with
  | nil => cases m <;> rfl
  | cons a l ih =>
    cases m with
    | nil => rfl
    | cons b m =>
      rw [List.length_cons, List.length_cons, compare_succ_succ, List.take_succ_cons, List.take_succ_cons,
        List.compare_cons_cons, List.compare_cons_cons, ← ih m, Ordering.then_assoc]

theorem compare_take_take_eq_gt_iff [Std.TransOrd α] {l m : List α} :
    compare (l.take m.length) (m.take l.length) = .gt ↔ compare m (l.take m.length) = .lt := by
  induction l generalizing m with
  | nil => cases m <;> simp
  | cons a l ih =>
    cases m with
    | nil => simp
    | cons b m =>
      rw [List.length_cons, List.length_cons, List.take_succ_cons, List.take_succ_cons,
        List.compare_cons_cons, List.compare_cons_cons, Std.OrientedOrd.eq_swap (a := b) (b := a)]
      cases compare a b <;> simp [ih]

theorem isLE_of_not_lt [Std.TransOrd α] {a b : α} (h : compare a b ≠ .lt) :
    (compare b a).isLE := by
  rw [Std.OrientedOrd.eq_swap]
  cases horder : compare a b with
  | lt => exact absurd horder h
  | _ => rfl

end Lists

namespace Tuple

variable {types : List StoreType} {key : Tuple}

/-- The ranks of a tuple within the length of the key. -/
def cut (t : Tuple) (types : List StoreType) : List (List Int) := t.ranks.take types.length

/-- The tuple is a key with values of the key's types. -/
structure IsFullKey (key : Tuple) (types : List StoreType) : Prop where
  fits : key.Fits types
  length : key.length = types.length

theorem cut_of_length_le {t : Tuple} (h : t.length ≤ types.length) : t.cut types = t.ranks := by
  rw [cut, List.take_of_length_le]
  rwa [length_ranks]

theorem Fits.take {t : Tuple} (h : t.Fits types) (n : Nat) : Fits (t.take n) types := by
  induction t generalizing types n with
  | nil => simpa using h
  | cons v t ih =>
    cases n with
    | zero => cases types <;> exact nofun
    | succ n =>
      cases types with
      | nil => exact nofun
      | cons type types =>
        obtain ⟨hv, ht⟩ := fits_cons.mp h
        exact fits_cons.mpr ⟨hv, ih ht n⟩

theorem IsFullKey.cut_eq (h : key.IsFullKey types) : key.cut types = key.ranks :=
  cut_of_length_le (Nat.le_of_eq h.length)

end Tuple

/-! ### Comparisons with bounds -/

namespace Tuple

/-- A tuple lies before another where its ranks lie before those within its length. -/
theorem Comparable.compareKeys_eq_lt_iff {key t : Tuple} (h : key.Comparable t) :
    compareKeys key t = .lt ↔ compare key.ranks (t.ranks.take key.length) = .lt := by
  have hlength : (t.ranks.take key.length).length = min key.length t.length := by
    rw [List.length_take, length_ranks]
  have htake : key.ranks.take t.length = key.ranks.take (t.ranks.take key.length).length := by
    rw [hlength, List.take_eq_take_iff, length_ranks]
    omega
  rw [h.compareKeys_eq, htake]
  exact compare_take_length_eq_lt_iff

/-- By values, and a beginning before the whole, tuples are ordered as their ranks. -/
theorem Comparable.compareKeys_then_length {a b : Tuple} (h : a.Comparable b) :
    (compareKeys a b).then (compare a.length b.length) = compare a.ranks b.ranks := by
  rw [h.compareKeys_eq, ← compare_eq_then_length a.ranks, length_ranks, length_ranks]

end Tuple

section Bounds

variable {types : List StoreType} (htypes : ∀ t ∈ types, t.IsRanked)

include htypes

/-- A full key lies before a tuple where its ranks lie before those within its length. -/
theorem compareKeys_eq_lt_iff {key t : Tuple} (hkey : key.IsFullKey types) (ht : t.Fits types) :
    compareKeys key t = .lt ↔ compare key.ranks (t.cut types) = .lt := by
  have hcomparable := hkey.fits.comparable htypes ht (.inl (Nat.le_of_eq hkey.length))
  rw [hcomparable.compareKeys_eq_lt_iff, hkey.length, Tuple.cut]

/-- A tuple lies behind one that is not longer than the key where its ranks do on that length. -/
theorem compareKeys_eq_gt_iff {a b : Tuple} (ha : a.Fits types) (hb : b.Fits types)
    (hlength : b.length ≤ types.length) :
    compareKeys a b = .gt ↔ compare b.ranks ((a.cut types).take b.length) = .lt := by
  rw [compareKeys_eq_compare htypes ha hb (.inr hlength), ← Tuple.length_ranks a,
    ← Tuple.length_ranks b, compare_take_take_eq_gt_iff, Tuple.cut, List.take_take,
    Tuple.length_ranks, Nat.min_eq_left hlength]

/-- By values, and a beginning before the whole, tuples are ordered as their ranks. -/
theorem compareKeys_then_length {a b : Tuple} (ha : a.Fits types) (hb : b.Fits types)
    (hlength : a.length ≤ types.length ∨ b.length ≤ types.length) :
    (compareKeys a b).then (compare a.length b.length) = compare a.ranks b.ranks :=
  (ha.comparable htypes hb hlength).compareKeys_then_length

/-- Full keys are ordered as their ranks. -/
theorem compareKeys_full {a b : Tuple} (ha : a.IsFullKey types) (hb : b.IsFullKey types) :
    compareKeys a b = compare a.ranks b.ranks := by
  rw [← compareKeys_then_length htypes ha.fits hb.fits (.inl (Nat.le_of_eq ha.length)), ha.length,
    hb.length, Std.ReflOrd.compare_self]
  exact Ordering.then_eq.symm

end Bounds

namespace KeyBound

theorem admitsAbove_ofTuple {values key : Tuple} :
    (ofTuple values true).admitsAbove key = true ↔ compareKeys key values ≠ .lt := by
  unfold ofTuple
  split
  · next hempty =>
    rw [List.isEmpty_iff.mp hempty, compareKeys_nil_right]
    simp [admitsAbove, all]
  · rw [admitsAbove]
    cases compareKeys key values <;> simp

theorem admitsBelow_ofTuple {values key : Tuple} :
    (ofTuple values true).admitsBelow key = true ↔ compareKeys key values ≠ .gt := by
  unfold ofTuple
  split
  · next hempty =>
    rw [List.isEmpty_iff.mp hempty, compareKeys_nil_right]
    simp [admitsBelow, all]
  · rw [admitsBelow]
    cases compareKeys key values <;> simp

theorem admitsBelow_ofTuple_exclusive {values key : Tuple} (hvalues : values ≠ []) :
    (ofTuple values false).admitsBelow key = true ↔ compareKeys key values = .lt := by
  rw [ofTuple, if_neg (by simpa using hvalues), admitsBelow]
  cases compareKeys key values <;> simp

/-! ### The tighter of two bounds -/

/-- Of two inclusive starts the tighter one lies further behind. -/
theorem cmpAsLower_ofTuple (a b : Tuple) :
    (ofTuple a true).cmpAsLower (ofTuple b true) =
      (compareKeys a b).then (compare a.length b.length) := by
  cases a with
  | nil => cases b <;> rfl
  | cons v a =>
    cases b with
    | nil => rfl
    | cons w b =>
      have htie : tieOrder ⟨v :: a, true, false⟩ ⟨w :: b, true, false⟩ =
          compare (v :: a).length (w :: b).length := by
        unfold tieOrder
        split <;> simp_all
      show (compareKeys (v :: a) (w :: b)).then (tieOrder ⟨v :: a, true, false⟩ ⟨w :: b, true, false⟩) =
        _
      rw [htie]

/-- An exclusive end is tighter than an inclusive one unless it lies behind it. -/
theorem cmpAsUpper_ofTuple {a b : Tuple} (ha : a ≠ []) :
    (ofTuple a false).cmpAsUpper (ofTuple b true) = .gt ↔ compareKeys a b = .gt := by
  cases a with
  | nil => exact absurd rfl ha
  | cons v a =>
    cases b with
    | nil => exact ⟨nofun, nofun⟩
    | cons w b =>
      have htie : tieOrder ⟨v :: a, false, false⟩ ⟨w :: b, true, false⟩ = .gt := by
        unfold tieOrder
        split <;> simp
      show (compareKeys (v :: a) (w :: b)).then
        (tieOrder ⟨v :: a, false, false⟩ ⟨w :: b, true, false⟩).swap = .gt ↔ _
      rw [htie]
      cases compareKeys (v :: a) (w :: b) <;> simp

end KeyBound

/-! ### The common part of two ranges -/

namespace KeyRange

/-- The range has the form of a shard: it starts at a point and ends before another, if it does. -/
structure IsShard (r : KeyRange) (types : List StoreType) : Prop where
  lower : ∃ p : Tuple, p.Fits types ∧ r.lower = .ofTuple p true
  upper : r.upper = .all ∨ ∃ p : Tuple, p ≠ [] ∧ p.Fits types ∧ r.upper = .ofTuple p false

/-- The range has the form of a planned one: it includes both of its ends, which are not longer than
the key. -/
structure IsPlanned (r : KeyRange) (types : List StoreType) : Prop where
  lower : ∃ t : Tuple, t.length ≤ types.length ∧ t.Fits types ∧ r.lower = .ofTuple t true
  upper : ∃ t : Tuple, t.length ≤ types.length ∧ t.Fits types ∧ r.upper = .ofTuple t true

variable {types : List StoreType} (htypes : ∀ t ∈ types, t.IsRanked)

include htypes

/-- A full key lies behind the tighter of two starts if it does behind both. -/
theorem admitsAbove_inter {a b : KeyRange} (ha : a.IsShard types) (hb : b.IsPlanned types)
    {key : Tuple} (hkey : key.IsFullKey types) :
    (a.inter b).lower.admitsAbove key = true ↔
      a.lower.admitsAbove key = true ∧ b.lower.admitsAbove key = true := by
  obtain ⟨p, hp, hlower⟩ := ha.lower
  obtain ⟨t, hlength, ht, hlower'⟩ := hb.lower
  have hkeyp := compareKeys_eq_lt_iff htypes hkey hp
  have hkeyt := compareKeys_eq_lt_iff htypes hkey ht
  rw [Tuple.cut_of_length_le hlength] at hkeyt
  -- Against a planned end only the values of the point within the key's length count.
  have hpt : compare p.ranks t.ranks = .lt ↔ compare (p.cut types) t.ranks = .lt := by
    rw [← compare_take_length_eq_lt_iff, ← compare_take_length_eq_lt_iff (l := p.cut types),
      Tuple.cut, List.take_take, Tuple.length_ranks, Nat.min_eq_left hlength]
  have htighter : (KeyBound.ofTuple p true).cmpAsLower (.ofTuple t true) = .lt ↔
      compare (p.cut types) t.ranks = .lt := by
    rw [KeyBound.cmpAsLower_ofTuple, compareKeys_then_length htypes hp ht (.inr hlength), hpt]
  rw [hlower, hlower', inter, hlower, hlower']
  dsimp only
  rw [KeyBound.admitsAbove_ofTuple, KeyBound.admitsAbove_ofTuple, ne_eq, ne_eq, hkeyp, hkeyt]
  by_cases hlt : compare (p.cut types) t.ranks = .lt
  · rw [if_pos (htighter.mpr hlt), KeyBound.admitsAbove_ofTuple, ne_eq, hkeyt]
    refine ⟨fun h => ⟨?_, h⟩, And.right⟩
    exact fun hbefore => h (Std.TransCmp.lt_trans hbefore hlt)
  · rw [if_neg (mt htighter.mp hlt), KeyBound.admitsAbove_ofTuple, ne_eq, hkeyp]
    refine ⟨fun h => ⟨h, ?_⟩, And.left⟩
    intro hbefore
    exact h (Std.TransCmp.lt_of_lt_of_isLE hbefore (isLE_of_not_lt hlt))

/-- And before the tighter of two ends if it does before both. -/
theorem admitsBelow_inter {a b : KeyRange} (ha : a.IsShard types) (hb : b.IsPlanned types)
    {key : Tuple} (hkey : key.IsFullKey types) :
    (a.inter b).upper.admitsBelow key = true ↔
      a.upper.admitsBelow key = true ∧ b.upper.admitsBelow key = true := by
  obtain ⟨t, hlength, ht, hupper'⟩ := hb.upper
  rcases ha.upper with hupper | ⟨p, hne, hp, hupper⟩
  · -- The last shard has no end of its own.
    have hinter : (a.inter b).upper = .ofTuple t true := by
      rw [inter, hupper, hupper']
      cases t <;> rfl
    rw [hinter, hupper, hupper']
    exact ⟨fun h => ⟨rfl, h⟩, And.right⟩
  · have hkeyp := compareKeys_eq_lt_iff htypes hkey hp
    have hkeyt := compareKeys_eq_gt_iff htypes hkey.fits ht hlength
    have hpt := compareKeys_eq_gt_iff htypes hp ht hlength
    rw [hkey.cut_eq] at hkeyt
    rw [hupper, hupper', inter, hupper, hupper']
    dsimp only
    rw [KeyBound.admitsBelow_ofTuple_exclusive hne, KeyBound.admitsBelow_ofTuple, ne_eq, hkeyp, hkeyt]
    by_cases hlt : compare t.ranks ((p.cut types).take t.length) = .lt
    · have htighter := (KeyBound.cmpAsUpper_ofTuple hne).mpr (hpt.mpr hlt)
      rw [if_pos htighter, KeyBound.admitsBelow_ofTuple, ne_eq, hkeyt]
      refine ⟨fun h => ⟨?_, h⟩, And.right⟩
      -- A key from the point on would, cut to the planned end, lie behind that.
      refine Decidable.byContradiction fun hge => h ?_
      have hcut := compare_take_take_isLE (isLE_of_not_lt hge) t.length
      exact Std.TransCmp.lt_of_lt_of_isLE hlt hcut
    · have htighter := mt (KeyBound.cmpAsUpper_ofTuple hne).mp (mt hpt.mp hlt)
      rw [if_neg htighter, KeyBound.admitsBelow_ofTuple_exclusive hne, hkeyp]
      refine ⟨fun h => ⟨h, ?_⟩, And.left⟩
      intro hbehind
      have hcut := compare_take_take_isLE (Ordering.isLE_of_eq_lt h) t.length
      exact hlt (Std.TransCmp.lt_of_lt_of_isLE hbehind hcut)

/-- **The common part of a shard and a planned range contains what both contain.** -/
theorem contains_inter {a b : KeyRange} (ha : a.IsShard types) (hb : b.IsPlanned types)
    {key : Tuple} (hkey : key.IsFullKey types) :
    (a.inter b).contains key = (a.contains key && b.contains key) := by
  rw [Bool.eq_iff_iff]
  simp only [contains, Bool.and_eq_true]
  rw [admitsAbove_inter htypes ha hb hkey, admitsBelow_inter htypes ha hb hkey]
  exact and_and_and_comm

end KeyRange
end ShardScan
