import ShardScan.Proofs.KeyRange.Places
import ShardScan.Proofs.KeyRange.Tiling
import ShardScan.Proofs.Store.Search
import ShardScan.Store.Scheme

/-!
# Cutting a table into shards

Split points may come in any order, more than once, and with fewer or more values
than a key has.  They are sorted by their values and, where one begins another,
by length, which is the order of their ranks.  As seen from any key they ascend
then: a key that lies before a point lies before all later ones.  So the shards
lie one behind the other and each key falls into exactly one of them, whether
points repeat, differ in form only, or differ behind the length of the key.

The point without values is different.  It turns into an unrestricted bound on
both sides, so the shards before it and those behind it cover all keys each.

## Main definitions

* `Table.Precedes` — the keys of one range lie before those of another.

## Main results

* `Table.countP_partitions_eq_one`, `Table.two_le_countP_partitions` — how many shards contain a key.
* `Table.pairwise_partitions` — the keys of a shard lie before those of the later ones.
* `Store.splitTable_tiles` — what a table reports once it has been cut into shards.
-/

namespace ShardScan

namespace Table

/-! ### The order of points -/

theorem pointBelow_iff {a b : Tuple} (h : a.Comparable b) :
    pointBelow a b = true ↔ compare a.ranks b.ranks = .lt := by
  rw [pointBelow, decide_eq_true_iff, h.compareKeys_then_length]

theorem nil_mem_dropRepeats_go {last : Tuple} {l : List Tuple} (h : [] ∈ last :: l) :
    [] ∈ last :: dropRepeats.go last l := by
  induction l generalizing last with
  | nil => exact h
  | cons t l ih =>
    unfold dropRepeats.go
    split
    · next hagrees =>
      refine ih ?_
      rcases List.mem_cons.mp h with h | h
      · exact h ▸ List.mem_cons_self
      · rcases List.mem_cons.mp h with rfl | h
        · -- Only the point without values agrees with it.
          have hlength : ([] : Tuple).length = last.length := by
            simpa using (Bool.and_eq_true_iff.mp hagrees).1
          rw [List.length_eq_zero_iff.mp hlength.symm]
          exact List.mem_cons_self
        · exact List.mem_cons_of_mem last h
    · rcases List.mem_cons.mp h with h | h
      · exact h ▸ List.mem_cons_self
      · exact List.mem_cons_of_mem last (ih h)

/-- The point without values is kept. -/
theorem nil_mem_dropRepeats {l : List Tuple} (h : [] ∈ l) : [] ∈ dropRepeats l := by
  cases l with
  | nil => cases h
  | cons t l => exact nil_mem_dropRepeats_go h

variable {key : Tuple} {points : List Tuple}

theorem mem_splitPoints_split {t : Table} {p : Tuple} (h : p ∈ (t.split points).splitPoints) :
    p ∈ points :=
  mem_sortAscending.mp ((sublist_dropRepeats _).mem h)

theorem nil_mem_splitPoints_split {t : Table} (h : [] ∈ points) :
    [] ∈ (t.split points).splitPoints :=
  nil_mem_dropRepeats (mem_sortAscending.mpr h)

/-- The points of a table that has been cut ascend by their ranks. -/
theorem pairwise_splitPoints_split (t : Table) (hpoints : Tuple.MutuallyComparable points) :
    (t.split points).splitPoints.Pairwise fun p q => (compare p.ranks q.ranks).isLE := by
  refine List.Pairwise.sublist (sublist_dropRepeats _) (pairwise_sortAscending ?_)
  exact fun p hp q hq => respects_of_iff (pointBelow_iff (hpoints p hp q hq))

/-- So they do as seen from a key. -/
theorem ascendFrom_split (t : Table) (hpoints : Tuple.MutuallyComparable points)
    (hkey : ∀ p ∈ points, key.Comparable p) : AscendFrom key (t.split points).splitPoints := by
  refine (t.pairwise_splitPoints_split hpoints).imp_of_mem ?_
  intro p q hp hq hle
  rw [(hkey p (mem_splitPoints_split hp)).compareKeys_eq_lt_iff,
    (hkey q (mem_splitPoints_split hq)).compareKeys_eq_lt_iff]
  exact fun hbefore => Std.TransCmp.lt_of_lt_of_isLE hbefore (compare_take_take_isLE hle key.length)

/-! ### The shard of a key -/

/-- A key that lies before a point is in no shard from there on. -/
theorem countP_go_eq_zero {p : Tuple} (h : AscendFrom key (p :: points))
    (hbefore : compareKeys key p = .lt) :
    (partitions.go (.ofTuple p true) points).countP (·.contains key) = 0 := by
  rw [List.countP_eq_zero]
  intro r hr hcontains
  exact KeyBound.admitsAbove_ofTuple.mp (admitsAbove_of_mem_go h hr hcontains) hbefore

/-- Of the shards behind a bound that admits a key, one contains it. -/
theorem countP_go_eq_one {lower : KeyBound} (hlower : lower.admitsAbove key = true)
    (hne : [] ∉ points) (h : AscendFrom key points) :
    (partitions.go lower points).countP (·.contains key) = 1 := by
  induction points generalizing lower with
  | nil =>
    rw [partitions.go, List.countP_singleton, KeyRange.contains, hlower]
    rfl
  | cons p points ih =>
    have hp : p ≠ [] := fun hnil => hne (hnil ▸ List.mem_cons_self)
    have hbelow : KeyRange.contains ⟨lower, .ofTuple p false⟩ key =
        (KeyBound.ofTuple p false).admitsBelow key := by
      rw [KeyRange.contains, hlower, Bool.true_and]
    by_cases hbefore : compareKeys key p = .lt
    · rw [partitions.go, List.countP_cons, countP_go_eq_zero h hbefore, hbelow,
        if_pos ((KeyBound.admitsBelow_ofTuple_exclusive hp).mpr hbefore)]
    · rw [partitions.go, List.countP_cons, hbelow,
        if_neg (mt (KeyBound.admitsBelow_ofTuple_exclusive hp).mp hbefore)]
      exact ih (KeyBound.admitsAbove_ofTuple.mpr hbefore)
        (fun hnil => hne (List.mem_cons_of_mem p hnil)) h.tail

/-- And whatever the points are, at least one does. -/
theorem one_le_countP_go {lower : KeyBound} (hlower : lower.admitsAbove key = true)
    (points : List Tuple) : 1 ≤ (partitions.go lower points).countP (·.contains key) := by
  induction points generalizing lower with
  | nil =>
    rw [partitions.go, List.countP_singleton, KeyRange.contains, hlower]
    exact Nat.le_refl 1
  | cons p points ih =>
    rw [partitions.go, List.countP_cons]
    cases hbelow : (KeyBound.ofTuple p false).admitsBelow key with
    | true =>
      rw [KeyRange.contains, hlower, hbelow]
      exact Nat.le_add_left ..
    | false =>
      have habove : (KeyBound.ofTuple p true).admitsAbove key = true := by
        cases p with
        | nil => rfl
        | cons v p =>
          rw [admitsAbove_eq_not_admitsBelow (List.cons_ne_nil v p), hbelow]
          rfl
      exact Nat.le_add_right_of_le (ih habove)

/-- The point without values ends one list of all shards and begins another. -/
theorem go_append_nil_cons (lower : KeyBound) (before behind : List Tuple) :
    partitions.go lower (before ++ [] :: behind) =
      partitions.go lower before ++ partitions.go .all behind := by
  induction before generalizing lower with
  | nil => rfl
  | cons p before ih => rw [List.cons_append, partitions.go, ih, partitions.go, List.cons_append]

/-- **Each key lies in one shard** if no point is without values. -/
theorem countP_partitions_eq_one (t : Table) (hpoints : Tuple.MutuallyComparable points)
    (hkey : ∀ p ∈ points, key.Comparable p) (hne : [] ∉ points) :
    (t.split points).partitions.countP (·.contains key) = 1 :=
  countP_go_eq_one rfl (fun hnil => hne (mem_splitPoints_split hnil))
    (t.ascendFrom_split hpoints hkey)

/-- **Each key lies in two shards** at least if a point is without values. -/
theorem two_le_countP_partitions (t : Table) (hnil : [] ∈ points) (key : Tuple) :
    2 ≤ (t.split points).partitions.countP (·.contains key) := by
  obtain ⟨before, behind, heq⟩ := List.append_of_mem (t.nil_mem_splitPoints_split hnil)
  rw [partitions, heq, go_append_nil_cons, List.countP_append]
  have hbefore : 1 ≤ (partitions.go .all before).countP (·.contains key) := one_le_countP_go rfl before
  have hbehind : 1 ≤ (partitions.go .all behind).countP (·.contains key) := one_le_countP_go rfl behind
  omega

/-! ### The order of shards -/

/-- A key before a point lies before the keys that do not. -/
theorem compareKeys_eq_lt_of_point {k k' p : Tuple} (hlength : k.length = k'.length)
    (hk : k.Comparable p) (hk' : k'.Comparable p) (hkk' : k.Comparable k')
    (hbefore : compareKeys k p = .lt) (hbehind : compareKeys k' p ≠ .lt) : compareKeys k k' = .lt := by
  rw [hk.compareKeys_eq_lt_iff] at hbefore
  rw [ne_eq, hk'.compareKeys_eq_lt_iff, ← hlength] at hbehind
  rw [hkk'.compareKeys_eq_lt_iff, hlength, ← Tuple.length_ranks k', List.take_length]
  exact Std.TransCmp.lt_of_lt_of_isLE hbefore (isLE_of_not_lt hbehind)

/-- The first range's keys lie before the second one's, for keys of a length that compare with the
points and with each other. -/
def Precedes (points : List Tuple) (length : Nat) (r r' : KeyRange) : Prop :=
  ∀ k k' : Tuple, k.length = length → k'.length = length →
    Tuple.MutuallyComparable (k :: k' :: points) →
    r.contains k = true → r'.contains k' = true → compareKeys k k' = .lt

theorem pairwise_go {all : List Tuple} {length : Nat} (lower : KeyBound) (hne : [] ∉ points)
    (hall : ∀ p ∈ points, p ∈ all)
    (h : ∀ key : Tuple, (∀ p ∈ all, key.Comparable p) → AscendFrom key points) :
    (partitions.go lower points).Pairwise (Precedes all length) := by
  induction points generalizing lower with
  | nil => exact List.pairwise_singleton ..
  | cons p points ih =>
    have hp : p ≠ [] := fun hnil => hne (hnil ▸ List.mem_cons_self)
    have hpall := hall p List.mem_cons_self
    refine List.pairwise_cons.mpr ⟨?_, ih _ (fun hnil => hne (List.mem_cons_of_mem p hnil))
      (fun q hq => hall q (List.mem_cons_of_mem p hq)) (fun key hkey => (h key hkey).tail)⟩
    intro r' hr' k k' hk hk' hvalues hfirst hlater
    have hpoint : ∀ q ∈ all, q ∈ k :: k' :: all := fun q hq =>
      List.mem_cons_of_mem k (List.mem_cons_of_mem k' hq)
    have hmem : k' ∈ k :: k' :: all := List.mem_cons_of_mem k List.mem_cons_self
    have hkall := fun q hq => hvalues k List.mem_cons_self q (hpoint q hq)
    have hkall' := fun q hq => hvalues k' hmem q (hpoint q hq)
    have hbefore := (Bool.and_eq_true_iff.mp hfirst).2
    have hbehind := admitsAbove_of_mem_go (h k' hkall') hr' hlater
    exact compareKeys_eq_lt_of_point (hk.trans hk'.symm) (hkall p hpall) (hkall' p hpall)
      (hvalues k List.mem_cons_self k' hmem) ((KeyBound.admitsBelow_ofTuple_exclusive hp).mp hbefore)
      (KeyBound.admitsAbove_ofTuple.mp hbehind)

/-- **The keys of a shard lie before those of the later ones.** -/
theorem pairwise_partitions (t : Table) (length : Nat) (hpoints : Tuple.MutuallyComparable points)
    (hne : [] ∉ points) : (t.split points).partitions.Pairwise (Precedes points length) :=
  pairwise_go .all (fun hnil => hne (mem_splitPoints_split hnil)) (fun _ => mem_splitPoints_split)
    (fun _ hkey => t.ascendFrom_split hpoints hkey)

/-- There are keys of every length: NULL compares with everything. -/
theorem comparable_replicate_null (length : Nat) {p : Tuple} (hp : p.Comparable p) :
    Tuple.Comparable (List.replicate length .null) p := by
  induction p generalizing length with
  | nil => cases length <;> exact nofun
  | cons v p ih =>
    obtain ⟨hv, hrest⟩ := Tuple.comparable_cons.mp hp
    cases length with
    | zero => exact nofun
    | succ length => exact Tuple.comparable_cons.mpr ⟨hv.null, ih length hrest⟩

end Table

namespace Store

/-- **Shard tiling.**  A table that is cut at points of comparable values reports shards of which
exactly one contains each full key, if and only if no point is without values; and then the keys of
a shard lie strictly before those of the later ones. -/
theorem splitTable_tiles {s : Store} {path : String} {t : Table} (ht : s.tables.get? path = some t)
    {points : List Tuple} (hpoints : Tuple.MutuallyComparable points) :
    ∃ s' layout, s.splitTable path points = (.ok (), s') ∧ s'.describeTable path = .ok layout ∧
      ((∀ key : Tuple, key.length = t.layout.primaryKey.length →
        (∀ p ∈ points, key.Comparable p) →
        layout.partitions.countP (·.contains key) = 1) ↔ [] ∉ points) ∧
      ([] ∉ points → layout.partitions.Pairwise
        (Table.Precedes points t.layout.primaryKey.length)) := by
  refine ⟨{ s with tables := s.tables.insert path (t.split points) }, (t.split points).description,
    by rw [splitTable, ht], ?_, ⟨?_, ?_⟩, ?_⟩
  · rw [describeTable, view?, Dict.get?_insert, if_pos rfl]
  · intro hone hnil
    let nulls : Tuple := List.replicate t.layout.primaryKey.length .null
    have hnulls : (t.split points).partitions.countP (·.contains nulls) = 1 :=
      hone nulls (List.length_replicate ..) fun p hp =>
        Table.comparable_replicate_null _ (hpoints p hp p hp)
    have htwo := t.two_le_countP_partitions hnil nulls
    omega
  · intro hne key _ hkey
    exact t.countP_partitions_eq_one hpoints hkey hne
  · exact fun hne => t.pairwise_partitions _ hpoints hne

/-- A table of issues by their labels and numbers. -/
def issueLayout : TableLayout where
  columns := [⟨"label", .optional .text⟩, ⟨"number", .int .int32⟩, ⟨"title", .optional .text⟩]
  primaryKey := ["label", "number"]
  indexes := []
  properties := .empty
  partitions := []

def issueStore : Store := ((Store.new "/local").createTable "/local/issues" issueLayout).2

/-- Points out of order, one of them a beginning of others, one longer than the key, and two that
are equal but for their types. -/
def issuePoints : List Tuple :=
  [[.text "ECM", .int .int32 1064], [.text "Verve"], [.text "ECM", .int .int64 1064], [.text "ECM"],
    [.text "ECM", .int .int32 1064, .text "Solstice"], [.null]]

/-- The issue at equal points lies in one of the shards. -/
theorem splitTable_tiles_issues :
    ∃ s' layout, issueStore.splitTable "/local/issues" issuePoints = (.ok (), s') ∧
      s'.describeTable "/local/issues" = .ok layout ∧
      layout.partitions.countP (·.contains [.text "ECM", .int .int16 1064]) = 1 := by
  have ht : issueStore.tables.get? "/local/issues" = some (.empty issueLayout) := by decide +kernel
  have hpoints : Tuple.MutuallyComparable issuePoints := by decide +kernel
  obtain ⟨s', layout, hsplit, hdescribe, hone, -⟩ := splitTable_tiles ht hpoints
  refine ⟨s', layout, hsplit, hdescribe, hone.mpr (by decide) _ rfl ?_⟩
  decide +kernel

end Store
end ShardScan
