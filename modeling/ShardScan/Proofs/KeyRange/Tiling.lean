import ShardScan.Proofs.KeyRange.Bounds
import ShardScan.Store.Table

/-!
# Shards tile the keys

The shards of a table lie between its split points, which ascend.  Rows in key
order therefore fall apart into the rows of one shard after the other: those
before the first point come first, and none of them lies in a later shard.

## Main definitions

* `Table.AscendFrom` — the points ascend as seen from one key.
* `Table.PointsAscend` — the points are in the order of their cuts.

## Main results

* `Table.flatMap_partitions` — the rows of all shards, one shard after the other, are all rows.
-/

namespace ShardScan

/-- Items in an order that puts those of a kind first are those of the kind and then the others. -/
theorem filter_append_filter_not {α : Type} {p : α → Bool} {l : List α}
    (h : l.Pairwise fun a b => p b = true → p a = true) :
    l.filter p ++ l.filter (fun a => !p a) = l := by
  induction l with
  | nil => rfl
  | cons a l ih =>
    obtain ⟨hfirst, hrest⟩ := List.pairwise_cons.mp h
    cases ha : p a with
    | true =>
      rw [List.filter_cons_of_pos ha, List.filter_cons_of_neg (by simp [ha]), List.cons_append,
        ih hrest]
    | false =>
      -- Nothing behind an item of the other kind is of this one.
      have hnone : l.filter p = [] := by
        rw [List.filter_eq_nil_iff]
        intro b hb hpb
        rw [hfirst b hb hpb] at ha
        cases ha
      have hall : l.filter (fun b => !p b) = l := by
        rw [hnone, List.nil_append] at ih
        exact ih hrest
      rw [List.filter_cons_of_neg (by simp [ha]), List.filter_cons_of_pos (by simp [ha]), hnone,
        hall, List.nil_append]

namespace Table

/-! ### One key against all points -/

/-- As seen from a key, the points ascend: the key lies before all that follow one it lies before. -/
def AscendFrom (key : Tuple) (points : List Tuple) : Prop :=
  points.Pairwise fun p q => compareKeys key p = .lt → compareKeys key q = .lt

/-- The shards from a point on contain no key before it. -/
theorem admitsAbove_of_mem_go {key p : Tuple} {points : List Tuple} (h : AscendFrom key (p :: points))
    {r : KeyRange} (hr : r ∈ partitions.go (.ofTuple p true) points)
    (hcontains : r.contains key = true) : (KeyBound.ofTuple p true).admitsAbove key = true := by
  induction points generalizing p with
  | nil =>
    cases List.mem_singleton.mp hr
    exact (Bool.and_eq_true_iff.mp hcontains).1
  | cons q points ih =>
    rcases List.mem_cons.mp hr with rfl | hr
    · exact (Bool.and_eq_true_iff.mp hcontains).1
    · obtain ⟨hfirst, hrest⟩ := List.pairwise_cons.mp h
      have hlater := ih hrest hr
      rw [KeyBound.admitsAbove_ofTuple] at hlater ⊢
      exact mt (hfirst q List.mem_cons_self) hlater

/-- A full key lies behind an inclusive start or before the exclusive end at the same point. -/
theorem admitsAbove_eq_not_admitsBelow {p key : Tuple} (hp : p ≠ []) :
    (KeyBound.ofTuple p true).admitsAbove key = !(KeyBound.ofTuple p false).admitsBelow key := by
  rw [Bool.eq_iff_iff, KeyBound.admitsAbove_ofTuple, Bool.not_eq_true', Bool.eq_false_iff, ne_eq,
    ne_eq, KeyBound.admitsBelow_ofTuple_exclusive hp]

/-! ### Keys of one list of types -/

section Tiling

variable {types : List StoreType}

/-- The points are in the order of their cuts, and each is one. -/
structure PointsAscend (points : List Tuple) (types : List StoreType) : Prop where
  fits : ∀ p ∈ points, p.Fits types
  ascend : points.Pairwise fun p q => (compare (p.cut types) (q.cut types)).isLE

theorem PointsAscend.tail {p : Tuple} {points : List Tuple} (h : PointsAscend (p :: points) types) :
    PointsAscend points types :=
  ⟨fun q hq => h.fits q (List.mem_cons_of_mem p hq), h.ascend.tail⟩

theorem PointsAscend.ascendFrom {points : List Tuple} (htypes : ∀ t ∈ types, t.IsRanked)
    (h : PointsAscend points types) {key : Tuple} (hkey : key.IsFullKey types) :
    AscendFrom key points := by
  refine h.ascend.imp_of_mem ?_
  intro p q hp hq hle
  rw [compareKeys_eq_lt_iff htypes hkey (h.fits p hp),
    compareKeys_eq_lt_iff htypes hkey (h.fits q hq)]
  exact fun hbefore => Std.TransCmp.lt_of_lt_of_isLE hbefore hle

/-- In key order the rows before an exclusive end come first. -/
theorem filter_admitsBelow_append (htypes : ∀ t ∈ types, t.IsRanked) {key : Tuple → Tuple}
    {rows : List Tuple} (hkeys : ∀ row ∈ rows, (key row).IsFullKey types)
    (hrows : rows.Pairwise fun a b => (compare (key a).ranks (key b).ranks).isLE)
    {q : Tuple} (hq : q.Fits types) (hne : q ≠ []) :
    (rows.filter fun row => (KeyBound.ofTuple q false).admitsBelow (key row)) ++
      (rows.filter fun row => !(KeyBound.ofTuple q false).admitsBelow (key row)) = rows := by
  refine filter_append_filter_not (hrows.imp_of_mem ?_)
  intro a b ha hb hab hbefore
  rw [KeyBound.admitsBelow_ofTuple_exclusive hne,
    compareKeys_eq_lt_iff htypes (hkeys b hb) hq] at hbefore
  rw [KeyBound.admitsBelow_ofTuple_exclusive hne, compareKeys_eq_lt_iff htypes (hkeys a ha) hq]
  exact Std.TransCmp.lt_of_isLE_of_lt hab hbefore

/-- The shards from a point on have rows behind it only. -/
theorem flatMap_go_filter (htypes : ∀ t ∈ types, t.IsRanked) {key : Tuple → Tuple}
    {rows : List Tuple} (hkeys : ∀ row ∈ rows, (key row).IsFullKey types) {q : Tuple}
    {points : List Tuple} (hpoints : PointsAscend (q :: points) types) (hne : q ≠ [])
    (wanted : Tuple → Bool) :
    ((partitions.go (.ofTuple q true) points).flatMap fun r =>
      rows.filter fun row => r.contains (key row) && wanted row) =
    (partitions.go (.ofTuple q true) points).flatMap fun r =>
      (rows.filter fun row => !(KeyBound.ofTuple q false).admitsBelow (key row)).filter fun row =>
        r.contains (key row) && wanted row := by
  refine congrArg List.flatten (List.map_congr_left ?_)
  intro r hr
  rw [List.filter_filter]
  refine List.filter_congr ?_
  intro row hrow
  cases hcontains : r.contains (key row) with
  | false => rfl
  | true =>
    have habove := admitsAbove_of_mem_go (hpoints.ascendFrom htypes (hkeys row hrow)) hr hcontains
    rw [admitsAbove_eq_not_admitsBelow hne] at habove
    rw [Bool.true_and, habove, Bool.and_true]

/-- The shards from a point on tile the rows behind it. -/
theorem flatMap_go (htypes : ∀ t ∈ types, t.IsRanked) {key : Tuple → Tuple} {rows : List Tuple}
    (hkeys : ∀ row ∈ rows, (key row).IsFullKey types)
    (hrows : rows.Pairwise fun a b => (compare (key a).ranks (key b).ranks).isLE)
    {p : Tuple} {points : List Tuple} (hpoints : PointsAscend (p :: points) types)
    (hne : ∀ q ∈ points, q ≠ [])
    (hadmits : ∀ row ∈ rows, (KeyBound.ofTuple p true).admitsAbove (key row) = true)
    (wanted : Tuple → Bool) :
    ((partitions.go (.ofTuple p true) points).flatMap fun r =>
      rows.filter fun row => r.contains (key row) && wanted row) = rows.filter wanted := by
  induction points generalizing p rows with
  | nil =>
    rw [partitions.go, List.flatMap_singleton]
    refine List.filter_congr ?_
    intro row hrow
    rw [KeyRange.contains, hadmits row hrow]
    rfl
  | cons q points ih =>
    have hq := hpoints.fits q (List.mem_cons_of_mem p List.mem_cons_self)
    have hqne := hne q List.mem_cons_self
    -- The first shard has the rows before its end, the others those behind it.
    have hfirst : (rows.filter fun row =>
        KeyRange.contains ⟨.ofTuple p true, .ofTuple q false⟩ (key row) && wanted row) =
        (rows.filter fun row =>
          (KeyBound.ofTuple q false).admitsBelow (key row)).filter wanted := by
      rw [List.filter_filter]
      refine List.filter_congr ?_
      intro row hrow
      rw [KeyRange.contains, hadmits row hrow, Bool.true_and, Bool.and_comm]
    have hbehind : ∀ row ∈ rows.filter (fun row =>
        !(KeyBound.ofTuple q false).admitsBelow (key row)),
        (KeyBound.ofTuple q true).admitsAbove (key row) = true := by
      intro row hrow
      rw [admitsAbove_eq_not_admitsBelow hqne]
      exact (List.mem_filter.mp hrow).2
    have hothers := ih (fun row hrow => hkeys row (List.mem_filter.mp hrow).1) (hrows.filter _)
      hpoints.tail (fun q' hq' => hne q' (List.mem_cons_of_mem q hq')) hbehind
    rw [partitions.go, List.flatMap_cons, hfirst, flatMap_go_filter htypes hkeys hpoints.tail hqne,
      hothers, ← List.filter_append, filter_admitsBelow_append htypes hkeys hrows hq hqne]

/-- **The rows of all shards of a table, one shard after the other, are all rows**, also of those
rows that are wanted. -/
theorem flatMap_partitions (htypes : ∀ t ∈ types, t.IsRanked) {t : Table}
    (hkeys : ∀ row ∈ t.rows, (t.key row).IsFullKey types)
    (hrows : t.rows.Pairwise fun a b => (compare (t.key a).ranks (t.key b).ranks).isLE)
    (hpoints : PointsAscend t.splitPoints types) (hne : ∀ q ∈ t.splitPoints, q ≠ [])
    (wanted : Tuple → Bool) :
    (t.partitions.flatMap fun r =>
      t.rows.filter fun row => r.contains (t.key row) && wanted row) = t.rows.filter wanted := by
  have hall : PointsAscend ([] :: t.splitPoints) types := by
    refine ⟨?_, List.pairwise_cons.mpr ⟨?_, hpoints.ascend⟩⟩
    · intro p hp
      rcases List.mem_cons.mp hp with rfl | hp
      · cases types <;> exact nofun
      · exact hpoints.fits p hp
    · intro q hq
      cases types <;> cases q <;> rfl
  exact flatMap_go htypes hkeys hrows hall hne (fun _ _ => rfl) wanted

end Tiling

end Table
end ShardScan
