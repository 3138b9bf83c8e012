import Mathlib.Data.List.Forall2
import ShardScan.Proofs.Plan.Overflows
import ShardScan.Proofs.Plan.Shards
import ShardScan.Proofs.Scan.Opening
import ShardScan.Proofs.Store.Tables

/-!
# Whole scans

The readers of all shards of a plan give, one shard after the other, the rows of
the table with keys in the planned range, each row once and in key order.  Every
layer does its part: the shards tile the keys, the common part with the planned
range loses none, the request passes it on, the store cuts the rows into blocks
and the reader puts them together again.

There is one plan that gives nothing.  Where a literal overflows the planned range
does not come about, and no reader of the plan gets as far as to open a session.

## Main definitions

* `Shard.Yields` — the rows that a new reader of a shard gives.

## Main results

* `whole_scan` — the rows of all shards of a plan.
-/

namespace ShardScan

namespace Shard

/-- Over every store with the tables of `s`, a new reader of the shard gives these rows and then says
that there are no more. -/
def Yields (shard : Shard) (timeoutSeconds : Word .u64) (s : Store) (rows : List (List Scalar)) :
    Prop :=
  ∀ s', s.SameTables s' → ∃ count r s'',
    (Reader.new shard timeoutSeconds).takeRows s' count = (rows, .ended, r, s'') ∧ s.SameTables s''

/-- The store stays as a shard needs it. -/
theorem Readable.congr {shard : Shard} {s s' : Store} {t : Table} {names : List String}
    (h : shard.Readable s t names) (hsame : s.SameTables s') : shard.Readable s' t names :=
  { h with
    table := hsame.tables ▸ h.table
    faults := hsame.faults.trans h.faults
    block := hsame.blockSize ▸ h.block }

/-- A shard yields the rows of its range. -/
theorem Readable.yields {shard : Shard} {s : Store} {t : Table} {names : List String}
    (h : shard.Readable s t names) (timeoutSeconds : Word .u64) :
    shard.Yields timeoutSeconds s
      ((t.readRows shard.effectiveRange (shard.plan.rowLimit.filter fun limit => 0 < limit.val)).map
        (t.engineRow names)) := by
  intro s' hsame
  have hanswers : Reader.Answers s' names ((Reader.new shard timeoutSeconds).next s' (.ok ())) _ :=
    Reader.new_answers (h.congr hsame)
  obtain ⟨r, s'', htake, hsame'⟩ := Reader.takeRows_of_answers hanswers (Nat.lt_succ_self _)
  exact ⟨_, r, s'', htake, hsame.trans hsame'⟩

end Shard

/-! ### Plans for a table -/

/-- A plan is made for a table that the store has, and nothing is in the way of reading it. -/
structure ScanPlan.Covers (p : ScanPlan) (s : Store) (t : Table) : Prop where
  kept : t.Kept
  table : s.tables.get? p.tablePath = some t
  faults : s.faults = .none
  block : 0 < s.blockSize
  keyColumns : p.keyColumns = t.layout.primaryKey
  keyTypes : p.keyTypes = t.layout.keyTypes
  partitions : p.partitions = t.partitions
  known : ∀ name ∈ p.outSchema.names, ∃ c ∈ t.layout.columns, c.name = name
  life : 0 < p.sessionSeconds.val
  clock : p.sessionSeconds.val < Store.clockSeconds
  depth : 0 < p.queueDepth.val

namespace ScanPlan

variable {p : ScanPlan} {s : Store} {t : Table}

/-- The columns that are read are columns of the table, at least one of them. -/
theorem Covers.outColumns (h : p.Covers s t) :
    p.outColumns ≠ [] ∧ ∀ name ∈ p.outColumns, ∃ c ∈ t.layout.columns, c.name = name := by
  rw [ScanPlan.outColumns]
  split
  · -- Where no columns were asked for, the first key column is read.
    rw [h.keyColumns]
    obtain ⟨key, keys, hkeys⟩ := List.exists_cons_of_ne_nil h.kept.keyed
    rw [hkeys]
    refine ⟨List.cons_ne_nil _ _, ?_⟩
    intro name hname
    cases List.mem_singleton.mp hname
    have hmem : key ∈ t.layout.primaryKey := by
      rw [hkeys]
      exact List.mem_cons_self
    exact h.kept.described key hmem
  · next hsome =>
    refine ⟨?_, h.known⟩
    intro hnil
    exact hsome (List.isEmpty_iff.mpr (List.map_eq_nil_iff.mp hnil))

theorem Covers.isShard (h : p.Covers s t) : ∀ r ∈ t.partitions, r.IsShard t.layout.keyTypes :=
  Table.isShard_of_mem_partitions fun q hq => ⟨h.kept.cut q hq, h.kept.points.fits q hq⟩

theorem Covers.isPlanned (h : p.Covers s t) : p.plannedRange.IsPlanned t.layout.keyTypes := by
  have hplanned := p.isPlanned_plannedRange
  rwa [h.keyTypes] at hplanned

theorem Covers.range_shards (h : p.Covers s t) : p.shards.map (·.range) = t.partitions := by
  have hsome : p.partitions ≠ [] := by
    rw [h.partitions]
    exact Table.go_ne_nil _ _
  rw [map_range_shards hsome, h.partitions]

theorem Covers.readable (h : p.Covers s t) (hfits : ¬ p.Overflows) {shard : Shard}
    (hshard : shard ∈ p.shards) : shard.Readable s t p.outColumns := by
  have hplan := plan_of_mem_shards hshard
  have hrange : shard.range ∈ t.partitions := by
    rw [← h.range_shards]
    exact List.mem_map_of_mem hshard
  have heffective : shard.effectiveRange = shard.range.inter p.plannedRange := by
    rw [Shard.effectiveRange, hplan]
  have hrange? : p.plannedRange? = some p.plannedRange := plannedRange?_eq_some_iff.mpr ⟨hfits, rfl⟩
  obtain ⟨hlower, hupper⟩ := KeyRange.inter_bounds (h.isShard _ hrange) h.isPlanned
  obtain ⟨hsome, hknown⟩ := h.outColumns
  have hlife := h.life
  have hclock := h.clock
  have hdepth := h.depth
  exact
    { table := by rw [hplan]; exact h.table
      faults := h.faults
      block := h.block
      columns := by rw [hplan]
      some_column := hsome
      known := hknown
      life := by rw [hplan]; omega
      clock := by rw [hplan]; omega
      depth := by rw [hplan]; omega
      range := by rw [Shard.effectiveRange?, hplan, hrange?, heffective, Option.map_some]
      lower := by rw [heffective]; exact hlower
      upper := by rw [heffective]; exact hupper }

/-- What the readers of all shards give. -/
def outputs (p : ScanPlan) (t : Table) (limit : Option (Word .u64)) : List (List (List Scalar)) :=
  t.partitions.map fun r => (t.readRows (r.inter p.plannedRange) limit).map (t.engineRow p.outColumns)

/-- **The readers of all shards give the rows of their ranges.** -/
theorem Covers.yields (h : p.Covers s t) (hfits : ¬ p.Overflows) (timeoutSeconds : Word .u64) :
    List.Forall₂ (fun shard rows => shard.Yields timeoutSeconds s rows) p.shards
      (p.outputs t (p.rowLimit.filter fun limit => 0 < limit.val)) := by
  rw [outputs, ← h.range_shards, List.map_map, List.forall₂_map_right_iff, List.forall₂_same]
  intro shard hshard
  have hyields := (h.readable hfits hshard).yields timeoutSeconds
  rwa [Shard.effectiveRange, plan_of_mem_shards hshard] at hyields

/-- No reader of a plan that overflows gets to a row. -/
theorem next_eq_none_of_overflows (hoverflows : p.Overflows) (timeoutSeconds : Word .u64)
    {shard : Shard} (hshard : shard ∈ p.shards) (s : Store) (spawn : Except String Unit) :
    (Reader.new shard timeoutSeconds).next s spawn = none := by
  refine Reader.next_eq_none rfl rfl ?_ s spawn
  show shard.effectiveRange? = none
  rw [Shard.effectiveRange?, plan_of_mem_shards hshard,
    plannedRange?_eq_none_iff.mpr hoverflows, Option.map_none]

/-- The rows of the shards within the planned range are those of the table. -/
theorem Covers.flatMap_readRows (h : p.Covers s t) :
    (t.partitions.flatMap fun r => t.readRows (r.inter p.plannedRange) none) =
      t.rows.filter fun row => p.plannedRange.contains (t.key row) := by
  have hkeys : ∀ row ∈ t.rows, (t.key row).IsFullKey t.layout.keyTypes :=
    fun row hrow => Table.isFullKey h.kept.described (h.kept.fits row hrow)
  have hascend : t.rows.Pairwise fun a b => (compare (t.key a).ranks (t.key b).ranks).isLE :=
    (List.pairwise_map.mp h.kept.ascend).imp Ordering.isLE_of_eq_lt
  have hranges : (t.partitions.flatMap fun r => t.readRows (r.inter p.plannedRange) none) =
      t.partitions.flatMap fun r => t.rows.filter fun row =>
        r.contains (t.key row) && p.plannedRange.contains (t.key row) := by
    refine congrArg List.flatten (List.map_congr_left ?_)
    intro r hr
    refine List.filter_congr ?_
    intro row hrow
    exact KeyRange.contains_inter h.kept.ranked (h.isShard r hr) h.isPlanned (hkeys row hrow)
  rw [hranges]
  exact Table.flatMap_partitions h.kept.ranked hkeys hascend h.kept.points h.kept.cut
    fun row => p.plannedRange.contains (t.key row)

/-- **Put together they are the rows with keys in the planned range.** -/
theorem Covers.flatten_outputs (h : p.Covers s t) :
    (p.outputs t none).flatten =
      (t.rows.filter fun row => p.plannedRange.contains (t.key row)).map (t.engineRow p.outColumns) := by
  rw [← h.flatMap_readRows, List.map_flatMap]
  rfl

/-- A limit cuts what each reader gives. -/
theorem outputs_limit (p : ScanPlan) (t : Table) (limit : Word .u64) :
    p.outputs t (some limit) = (p.outputs t none).map (List.take limit.val.toNat) := by
  rw [outputs, outputs, List.map_map]
  refine List.map_congr_left ?_
  intro r _
  exact List.map_take

end ScanPlan

/-! ### Plans from descriptions -/

/-- A table is described with its shards. -/
theorem describeTable_eq {s : Store} {path : String} {t : Table} {layout : TableLayout}
    (htable : s.tables.get? path = some t) (hdescribe : s.describeTable path = .ok layout) :
    layout = t.description := by
  rw [Store.describeTable, Store.view?, htable] at hdescribe
  cases hdescribe
  rfl

theorem names_ofLayout (name path : String) (layout : TableLayout) :
    (ScanTarget.ofLayout name path layout).schema.names = layout.columns.map (·.name) := by
  rw [Schema.names, ScanTarget.ofLayout, Schema.ofFields, List.map_map]
  rfl

/-- A plan for a table as the store describes it covers the table. -/
theorem covers_plan {settings : ScanSettings} {s : Store} {path name : String} {t : Table}
    {layout : TableLayout} (hmade : t.Made) (htable : s.tables.get? path = some t)
    (hdescribe : s.describeTable path = .ok layout) (hfaults : s.faults = .none)
    (hblock : 0 < s.blockSize) (hlife : 0 < settings.sessionSeconds.val)
    (hclock : settings.sessionSeconds.val < Store.clockSeconds) {b : Pushdown}
    (htarget : b.target = .ofLayout name path layout)
    (hcolumns : ∀ columns ∈ b.projection, ∀ column ∈ columns.names,
      ∃ c ∈ layout.columns, c.name = column) : (b.plan settings).Covers s t := by
  have hlayout := describeTable_eq htable hdescribe
  subst hlayout
  obtain ⟨hsessionLife, hsessionClock⟩ := b.options.sessionSeconds_pos hlife hclock
  refine
    { kept := hmade.kept
      table := by rw [Pushdown.plan, htarget]; exact htable
      faults := hfaults
      block := hblock
      keyColumns := by rw [Pushdown.plan, htarget]; rfl
      keyTypes := by rw [Pushdown.plan, htarget]; rfl
      partitions := by rw [Pushdown.plan, htarget]; rfl
      known := ?_
      life := hsessionLife
      clock := hsessionClock
      depth := b.options.queueDepth_pos settings }
  intro column hcolumn
  rw [Pushdown.plan] at hcolumn
  cases hprojection : b.projection with
  | some columns =>
    rw [hprojection] at hcolumn
    exact hcolumns columns hprojection column hcolumn
  | none =>
    rw [hprojection, Option.getD_none, htarget, names_ofLayout] at hcolumn
    obtain ⟨c, hc, hname⟩ := List.mem_map.mp hcolumn
    exact ⟨c, hc, hname⟩

/-- A table with a key of two columns, the first of which may be NULL. -/
def trackLayout : TableLayout where
  columns := [⟨"seconds", .int .uint32⟩, ⟨"disc", .optional (.int .int32)⟩, ⟨"title", .text⟩]
  primaryKey := ["disc", "title"]
  indexes := []
  properties := .empty
  partitions := []

def trackRows : List Tuple :=
  [[.int .uint32 246, .int .int32 2, .text "Amelia"], [.int .uint32 195, .null, .text "Coyote"],
    [.int .uint32 301, .int .int32 1, .text "Hejira"]]

/-- Points that are longer than the key, and shorter. -/
def trackPoints : List Tuple := [[.int .int32 2, .text "A", .null], [.int .int32 1]]

def trackTable : Table := ((Table.empty trackLayout).insertRows trackRows).2.split trackPoints

/-- A store with the table, which delivers it in blocks of one row. -/
def trackStore : Store :=
  let s := ((Store.new "/local").createTable "/local/tracks" trackLayout).2
  let s := (s.insertRows "/local/tracks" trackRows).2
  (s.splitTable "/local/tracks" trackPoints).2.setBlockSize 1

/-- The titles and lengths of the tracks from the first disc on. -/
def trackPushdown : Pushdown where
  target := .ofLayout "tracks" "/local/tracks" trackTable.description
  options := .empty
  predicates := [.predicate .gtEq [.column ["disc"], .literal (.int .int32 1)]]
  projection := some (.ofFields [.plain "title" .utf8 false, .plain "seconds" (.int .uint32) false])
  rowLimit := none

theorem admits_disc (n : Word .i32) :
    (StoreType.optional (.int .int32)).Admits (.int .int32 n) := by
  intro c hc
  cases hc
  exact .int .int32 n

theorem admits_title (title : String) : StoreType.text.Admits (.text title) := by
  intro c hc
  cases hc
  exact .text title

theorem made_tracks : ((Table.empty trackLayout).insertRows trackRows).2.Made := by
  refine .insertRows (@Table.Made.empty "/local/tracks" trackLayout rfl ?_) ?_
  · intro type htype
    rcases List.mem_pair.mp htype with rfl | rfl <;> exact ⟨nofun, nofun⟩
  · refine List.forall_mem_cons.mpr ⟨?_, List.forall_mem_cons.mpr ⟨?_, List.forall_mem_singleton.mpr ?_⟩⟩
    · exact Tuple.fits_cons.mpr
        ⟨admits_disc 2, Tuple.fits_cons.mpr ⟨admits_title "Amelia", nofun⟩⟩
    · exact Tuple.fits_cons.mpr
        ⟨StoreType.admits_null _, Tuple.fits_cons.mpr ⟨admits_title "Coyote", nofun⟩⟩
    · exact Tuple.fits_cons.mpr
        ⟨admits_disc 1, Tuple.fits_cons.mpr ⟨admits_title "Hejira", nofun⟩⟩

theorem made_trackTable : trackTable.Made := by
  refine .split made_tracks ?_
  have htypes : ((Table.empty trackLayout).insertRows trackRows).2.layout.keyTypes =
      [.optional (.int .int32), .text] := by decide +kernel
  rw [htypes]
  refine List.forall_mem_cons.mpr ⟨⟨nofun, ?_⟩, List.forall_mem_singleton.mpr ⟨nofun, ?_⟩⟩
  · exact Tuple.fits_cons.mpr ⟨admits_disc 2, Tuple.fits_cons.mpr ⟨admits_title "A", nofun⟩⟩
  · exact Tuple.fits_cons.mpr ⟨admits_disc 1, nofun⟩

end ShardScan
