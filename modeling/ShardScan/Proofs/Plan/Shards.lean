import ShardScan.Plan.Pushdown
import ShardScan.Proofs.Coercion.Bounds
import ShardScan.Proofs.KeyRange.Tiling
import ShardScan.Store.Session

/-!
# Shards of a plan

What a plan makes of a table: the planned range has values of the key's types
and is not longer than the key, and the shards are those of the table.  The
settings of a plan leave its readers a session that lives and a queue with room.

## Main results

* `ScanPlan.isPlanned_plannedRange` — the form of a planned range.
* `Table.isShard_of_mem_partitions` — the form of the shards of a table.
* `ScanPlan.map_range_shards` — a plan has one shard for each of its partitions.
* `ConnectionOptions.sessionSeconds_pos`, `ConnectionOptions.queueDepth_pos` — the settings.
-/

namespace ShardScan

/-! ### Planned ranges -/

/-- What a literal is stored as in a key is of the key's type. -/
theorem Scalar.admits_toStoreKey {l : Scalar} {t : StoreType} {w : Value}
    (h : l.toStoreKey t = .ok w) : t.Admits w := by
  intro c hc
  by_cases hl : l = .null
  · subst hl
    rw [content?_of_toStoreKey_null h] at hc
    cases hc
  · obtain ⟨c', hc', hplain⟩ := content?_of_toStore hl h
    rw [Option.mem_def, hc'] at hc
    cases hc
    have htype := hasType_of_toStorePlain hplain
    rwa [StoreType.base_orNull] at htype

namespace ScanPlan

theorem storeKey_fits (literals : List Scalar) (types : List StoreType) :
    (storeKey literals types).length ≤ types.length ∧
      Tuple.Fits (storeKey literals types) types := by
  induction literals generalizing types with
  | nil =>
    have hnil : storeKey [] types = [] := by cases types <;> rfl
    rw [hnil]
    refine ⟨Nat.zero_le _, ?_⟩
    cases types <;> exact nofun
  | cons l literals ih =>
    cases types with
    | nil => exact ⟨Nat.le_refl 0, nofun⟩
    | cons type types =>
      rw [storeKey]
      cases hstore : l.toStoreKey type with
      | error e =>
        refine ⟨Nat.zero_le _, ?_⟩
        exact nofun
      | ok w =>
        obtain ⟨hlength, hfits⟩ := ih types
        refine ⟨Nat.succ_le_succ hlength, ?_⟩
        exact Tuple.fits_cons.mpr ⟨Scalar.admits_toStoreKey hstore, hfits⟩

/-- A planned range includes its ends, which have values of the key's types. -/
theorem isPlanned_plannedRange (p : ScanPlan) : p.plannedRange.IsPlanned p.keyTypes := by
  obtain ⟨hlower, hlowerFits⟩ := storeKey_fits p.planned.lower p.keyTypes
  obtain ⟨hupper, hupperFits⟩ := storeKey_fits p.planned.upper p.keyTypes
  exact ⟨⟨_, hlower, hlowerFits, rfl⟩, ⟨_, hupper, hupperFits, rfl⟩⟩

/-- A plan for a table with shards has one for each of them, and none is lost. -/
theorem map_range_shards {p : ScanPlan} (h : p.partitions ≠ []) :
    p.shards.map (·.range) = p.partitions := by
  have hnonempty : p.partitions.isEmpty = false := List.isEmpty_eq_false_iff.mpr h
  rw [shards, hnonempty, if_neg Bool.false_ne_true]
  refine List.ext_getElem? fun i => ?_
  rw [List.getElem?_map, List.getElem?_mapIdx, Option.map_map]
  exact Option.map_id'

theorem plan_of_mem_shards {p : ScanPlan} {shard : Shard} (h : shard ∈ p.shards) :
    shard.plan = p := by
  rw [shards] at h
  split at h
  · cases List.mem_singleton.mp h
    rfl
  · obtain ⟨i, hi, rfl⟩ := List.mem_mapIdx.mp h
    rfl

end ScanPlan

/-! ### Shards -/

namespace Table

theorem go_ne_nil (lower : KeyBound) (points : List Tuple) : partitions.go lower points ≠ [] := by
  cases points <;> exact List.cons_ne_nil _ _

theorem isShard_of_mem_go {types : List StoreType} {p : Tuple} {points : List Tuple}
    (hp : p.Fits types) (hpoints : ∀ q ∈ points, q ≠ [] ∧ q.Fits types) :
    ∀ r ∈ partitions.go (.ofTuple p true) points, r.IsShard types := by
  induction points generalizing p with
  | nil =>
    intro r hr
    cases List.mem_singleton.mp hr
    exact ⟨⟨p, hp, rfl⟩, .inl rfl⟩
  | cons q points ih =>
    obtain ⟨hne, hq⟩ := hpoints q List.mem_cons_self
    intro r hr
    rcases List.mem_cons.mp hr with rfl | hr
    · exact ⟨⟨p, hp, rfl⟩, .inr ⟨q, hne, hq, rfl⟩⟩
    · exact ih hq (fun q' hq' => hpoints q' (List.mem_cons_of_mem q hq')) r hr

/-- The shards of a table start at a point and end before the next. -/
theorem isShard_of_mem_partitions {types : List StoreType} {t : Table}
    (hpoints : ∀ q ∈ t.splitPoints, q ≠ [] ∧ q.Fits types) :
    ∀ r ∈ t.partitions, r.IsShard types := by
  refine isShard_of_mem_go (p := []) ?_ hpoints
  cases types <;> exact nofun

end Table

/-- The ends of a shard within a planned range are bounds at tuples. -/
theorem KeyRange.inter_bounds {types : List StoreType} {a b : KeyRange} (ha : a.IsShard types)
    (hb : b.IsPlanned types) :
    (∃ values inclusive, (a.inter b).lower = .ofTuple values inclusive) ∧
      ∃ values inclusive, (a.inter b).upper = .ofTuple values inclusive := by
  obtain ⟨p, -, hlower⟩ := ha.lower
  obtain ⟨t, -, -, hlower'⟩ := hb.lower
  obtain ⟨u, -, -, hupper'⟩ := hb.upper
  constructor
  · rw [inter]
    dsimp only
    split
    · exact ⟨t, true, hlower'⟩
    · exact ⟨p, true, hlower⟩
  · rw [inter]
    dsimp only
    split
    · exact ⟨u, true, hupper'⟩
    · rcases ha.upper with hupper | ⟨q, -, -, hupper⟩
      · exact ⟨[], true, hupper⟩
      · exact ⟨q, false, hupper⟩

/-! ### Settings -/

namespace ConnectionOptions

theorem val_of_atLeast? {least w : Word .u64} {n : Word .i32} (h : atLeast? least n = some w) :
    w.val = n.val ∧ least.val ≤ w.val := by
  unfold atLeast? at h
  split at h
  · next hleast =>
    rw [Word.ofInt?_eq_some_iff] at h
    exact ⟨h, h ▸ hleast⟩
  · cases h

theorem i32_lt (n : Word .i32) : n.val < 2147483648 := n.holds.2

/-- There is room in the queue of every shard. -/
theorem queueDepth_pos (o : ConnectionOptions) (settings : ScanSettings) :
    0 < (o.queueDepth settings).val := by
  have hleast : 0 < leastQueueDepth.val := by decide
  unfold queueDepth
  split
  · split
    · exact hleast
    · next hnot => exact lt_of_lt_of_le hleast (not_lt.mp hnot)
  · split
    · next n _ =>
      cases hdepth : atLeast? leastQueueDepth n with
      | none => exact hleast
      | some w => exact lt_of_lt_of_le hleast (val_of_atLeast? hdepth).2
    · decide

/-- Sessions live, and not longer than a clock can count, if those of the settings do. -/
theorem sessionSeconds_pos (o : ConnectionOptions) {settings : ScanSettings}
    (hlife : 0 < settings.sessionSeconds.val)
    (hclock : settings.sessionSeconds.val < Store.clockSeconds) :
    0 < (o.sessionSeconds settings).val ∧
      (o.sessionSeconds settings).val < Store.clockSeconds := by
  unfold sessionSeconds
  cases hoption : ((o.get? sessionSecondsKey).bind number?).bind (atLeast? 1) with
  | none => exact ⟨hlife, hclock⟩
  | some w =>
    obtain ⟨n, -, hn⟩ := Option.bind_eq_some_iff.mp hoption
    obtain ⟨hval, hleast⟩ := val_of_atLeast? hn
    have hone : (1 : Word .u64).val = 1 := by decide
    -- An option is a 32-bit number, which is far below what the clock can count.
    have hbound := i32_lt n
    have hwide : (2147483648 : Int) ≤ Store.clockSeconds := by decide +kernel
    refine ⟨?_, ?_⟩
    · show 0 < w.val
      omega
    · show w.val < _
      omega

end ConnectionOptions
end ShardScan
