import ShardScan.Proofs.KeyRange.Tiling
import ShardScan.Proofs.Store.Ordered

/-!
# How tables are kept

A table is made by creating it and then putting rows in, changing its columns
and cutting it into shards.  As long as keys and split points have values of the
key's types, its rows are in strictly ascending key order, one row per key, and
its split points ascend.

## Main definitions

* `Table.Made` — the tables that the operations make of values of the key's types.
* `Table.Kept` — what holds of their rows and points.

## Main results

* `Table.Made.kept` — it holds of every table that is made.
-/

namespace ShardScan

namespace Table

/-- The tables that operations make as long as keys and split points have values of the key's types.
Points may be shorter than the key, or longer. -/
inductive Made : Table → Prop
  | empty {path : String} {layout : TableLayout} (hfault : Store.layoutFault? path layout = none)
    (htypes : ∀ type ∈ layout.keyTypes, type.IsRanked) : Made (.empty layout)
  | insertRows {t : Table} {rows : List Tuple} (h : Made t)
    (hrows : ∀ row ∈ rows, (t.key row).Fits t.layout.keyTypes) : Made (t.insertRows rows).2
  | alter {t : Table} {operations : List AlterOperation} (h : Made t) : Made (t.alter operations).2
  | split {t : Table} {points : List Tuple} (h : Made t)
    (hpoints : ∀ p ∈ points, p ≠ [] ∧ p.Fits t.layout.keyTypes) : Made (t.split points)

/-- The rows and points of a table are in order. -/
structure Kept (t : Table) : Prop where
  keyed : t.layout.primaryKey ≠ []
  described : t.layout.KeyDescribed
  ranked : ∀ type ∈ t.layout.keyTypes, type.IsRanked
  width : ∀ row ∈ t.rows, row.length = t.layout.columns.length
  fits : ∀ row ∈ t.rows, (t.key row).Fits t.layout.keyTypes
  ascend : (t.rows.map fun row => (t.key row).ranks).Pairwise fun a b => compare a b = .lt
  points : PointsAscend t.splitPoints t.layout.keyTypes
  cut : ∀ p ∈ t.splitPoints, p ≠ []

theorem isFullKey {t : Table} (hdescribed : t.layout.KeyDescribed) {row : Tuple}
    (hfits : (t.key row).Fits t.layout.keyTypes) : (t.key row).IsFullKey t.layout.keyTypes :=
  ⟨hfits, length_key hdescribed row⟩

/-! ### Rows -/

theorem Kept.ordered {t : Table} (h : t.Kept) : t.Ordered := by
  have hkeys : ∀ row ∈ t.rows, (t.key row).IsKey t.layout.keyTypes :=
    fun row hrow => (isFullKey h.described (h.fits row hrow)).isKey h.ranked
  refine { described := h.described, width := h.width, keys := hkeys, ascend := ?_ }
  refine (List.pairwise_map.mp h.ascend).imp_of_mem ?_
  intro a b ha hb hlt
  rwa [compareKeys_eq_of_isKey (hkeys a ha) (hkeys b hb)]

theorem Ordered.kept {t : Table} (h : t.Ordered) (hkeyed : t.layout.primaryKey ≠ [])
    (hranked : ∀ type ∈ t.layout.keyTypes, type.IsRanked)
    (hpoints : PointsAscend t.splitPoints t.layout.keyTypes) (hcut : ∀ p ∈ t.splitPoints, p ≠ []) :
    t.Kept := by
  refine
    { keyed := hkeyed, described := h.described, ranked := hranked, width := h.width
      fits := fun row hrow => (h.keys row hrow).isFullKey.fits, ascend := ?_, points := hpoints
      cut := hcut }
  refine List.pairwise_map.mpr (h.ascend.imp_of_mem ?_)
  intro a b ha hb hlt
  rwa [compareKeys_eq_of_isKey (h.keys a ha) (h.keys b hb)] at hlt

theorem kept_empty {path : String} {layout : TableLayout}
    (hfault : Store.layoutFault? path layout = none)
    (htypes : ∀ type ∈ layout.keyTypes, type.IsRanked) : Kept (.empty layout) := by
  obtain ⟨hkey, -⟩ := TableLayout.layoutFault?_eq_none_iff.mp hfault
  exact (ordered_empty hfault).kept hkey htypes ⟨nofun, .nil⟩ nofun

theorem Kept.insertRows {t : Table} (h : t.Kept) {rows : List Tuple}
    (hrows : ∀ row ∈ rows, (t.key row).Fits t.layout.keyTypes) : (t.insertRows rows).2.Kept := by
  have hordered : (t.insertRows rows).2.Ordered := by
    refine h.ordered.insertRows fun row hrow => ?_
    have hfits := hrows row ((List.takeWhile_sublist _).mem hrow)
    exact (isFullKey h.described hfits).isKey h.ranked
  rw [insertRows_snd, foldl_insertRow_eq] at hordered ⊢
  exact hordered.kept h.keyed h.ranked h.points h.cut

theorem Kept.alter {t : Table} (h : t.Kept) (operations : List AlterOperation) :
    (t.alter operations).2.Kept := by
  have hcarried := carried_alter h.described operations
  obtain ⟨move, hmove, -, hpoints⟩ := id hcarried
  refine (h.ordered.carried hcarried).kept ?_ ?_ ?_ ?_
  · rw [hmove.key]
    exact h.keyed
  · rw [hmove.keyTypes_eq]
    exact h.ranked
  · rw [hpoints, hmove.keyTypes_eq]
    exact h.points
  · rw [hpoints]
    exact h.cut

/-! ### Split points -/

theorem compareKeys_take_drop (a b : Tuple) (n : Nat) :
    compareKeys a b =
      (compareKeys (a.take n) (b.take n)).then (compareKeys (a.drop n) (b.drop n)) := by
  induction n generalizing a b with
  | zero => rfl
  | succ n ih =>
    cases a with
    | nil => simp
    | cons v a =>
      cases b with
      | nil => simp
      | cons w b =>
        rw [List.take_succ_cons, List.take_succ_cons, List.drop_succ_cons, List.drop_succ_cons,
          compareKeys_cons, compareKeys_cons, ih a b, Ordering.then_assoc]

/-- Points are compared as their cuts, and those of one cut somehow. -/
theorem compare_points {types : List StoreType} (htypes : ∀ t ∈ types, t.IsRanked) {a b : Tuple}
    (ha : a.Fits types) (hb : b.Fits types) (hne : compare (a.cut types) (b.cut types) ≠ .eq) :
    (compareKeys a b).then (compare a.length b.length) = compare (a.cut types) (b.cut types) := by
  have hcut : compare (a.cut types) (b.cut types) =
      (compareKeys (a.take types.length) (b.take types.length)).then
        (compare (min types.length a.length) (min types.length b.length)) := by
    have hlength : (a.take types.length).length ≤ types.length := by
      rw [List.length_take]
      exact Nat.min_le_left ..
    rw [Tuple.cut, Tuple.cut, ← Tuple.ranks_take, ← Tuple.ranks_take,
      ← compareKeys_then_length htypes (ha.take _) (hb.take _) (.inl hlength), List.length_take,
      List.length_take]
  rw [hcut] at hne ⊢
  rw [compareKeys_take_drop a b types.length]
  cases hkeys : compareKeys (a.take types.length) (b.take types.length) with
  | lt => rfl
  | gt => rfl
  | eq =>
    rw [hkeys, Ordering.then] at hne
    -- One of the points ends within the key, so that nothing behind counts.
    have hends : compareKeys (a.drop types.length) (b.drop types.length) = .eq := by
      rcases Nat.lt_or_ge a.length types.length with hlt | hge
      · rw [List.drop_of_length_le (Nat.le_of_lt hlt), compareKeys_nil_left]
      · rcases Nat.lt_or_ge b.length types.length with hlt | hge'
        · rw [List.drop_of_length_le (Nat.le_of_lt hlt), compareKeys_nil_right]
        · rw [Nat.min_eq_left hge, Nat.min_eq_left hge'] at hne
          exact absurd Std.ReflOrd.compare_self hne
    rw [hends, Ordering.then, Ordering.then, Ordering.then]
    rcases Nat.lt_trichotomy (min types.length a.length) (min types.length b.length) with
      hlt | heq | hgt
    · rw [Nat.compare_eq_lt.mpr hlt, Nat.compare_eq_lt.mpr (by omega)]
    · rw [heq] at hne
      exact absurd Std.ReflOrd.compare_self hne
    · rw [Nat.compare_eq_gt.mpr hgt, Nat.compare_eq_gt.mpr (by omega)]

theorem respects_pointBelow {types : List StoreType} (htypes : ∀ t ∈ types, t.IsRanked)
    {a b : Tuple} (ha : a.Fits types) (hb : b.Fits types) :
    Respects pointBelow (Tuple.cut · types) a b := by
  unfold Respects pointBelow
  by_cases hne : compare (a.cut types) (b.cut types) = .eq
  · have hswap : compare (b.cut types) (a.cut types) = .eq := Std.OrientedCmp.eq_symm hne
    split
    · rw [hne]
      rfl
    · rw [hswap]
      rfl
  · rw [compare_points htypes ha hb hne]
    split
    · next hlt =>
      rw [decide_eq_true_iff.mp hlt]
      rfl
    · next hnot => exact isLE_of_not_lt fun hlt => hnot (decide_eq_true hlt)

theorem Kept.split {t : Table} (h : t.Kept) {points : List Tuple}
    (hpoints : ∀ p ∈ points, p ≠ [] ∧ p.Fits t.layout.keyTypes) : (t.split points).Kept := by
  have hkeep := sublist_dropRepeats (sortAscending pointBelow points)
  have hmem : ∀ p ∈ (t.split points).splitPoints, p ∈ points := by
    intro p hp
    exact mem_sortAscending.mp (hkeep.mem hp)
  have hsorted : (sortAscending pointBelow points).Pairwise fun p q =>
      (compare (p.cut t.layout.keyTypes) (q.cut t.layout.keyTypes)).isLE := by
    refine pairwise_sortAscending ?_
    intro a ha b hb
    exact respects_pointBelow h.ranked (hpoints a ha).2 (hpoints b hb).2
  exact
    { h with
      points := ⟨fun p hp => (hpoints p (hmem p hp)).2, hsorted.sublist hkeep⟩
      cut := fun p hp => (hpoints p (hmem p hp)).1 }

/-- **The rows and points of every table that is made are in order.** -/
theorem Made.kept {t : Table} (h : t.Made) : t.Kept := by
  induction h with
  | empty hfault htypes => exact kept_empty hfault htypes
  | insertRows _ hrows ih => exact ih.insertRows hrows
  | alter _ ih => exact ih.alter _
  | split _ hpoints ih => exact ih.split hpoints

end Table
end ShardScan
