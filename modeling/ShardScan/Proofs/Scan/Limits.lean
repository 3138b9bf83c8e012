import ShardScan.Proofs.Plan.PlannedRange
import ShardScan.Proofs.Scan.WholeScan

/-!
# Limits and predicates

The engine hands over predicates and a number of rows, and evaluates the
predicates again on the rows it gets.  Each reader stops after that many rows of
the planned range, and not all of these need to satisfy the predicates.  So the
rows that do can be lost, as many as the readers that reach the limit spend on
rows that do not; none is lost where one of these readers spends nothing, or
where none of them reaches the limit.

## Main definitions

* `Table.Satisfies` — predicates hold of a row of a table.
* `ScanPlan.given` — the rows that the readers of all shards give.

## Main results

* `le_countP_take` — what is left of a number of items when lists are cut to that length.
* `ScanPlan.Covers.contains_key` — rows that satisfy the predicates have keys in the planned range.
* `limited_scan` — how many of the rows that satisfy the predicates a limited scan delivers.
* `limited_scan_loses_track` — it need not deliver one where there is one.
-/

namespace ShardScan

/-! ### Lists that are cut -/

/-- **Lists that are cut to a length** keep as many items of a kind as that length, if there were so
many, but for those of another kind in one of the lists that have the length. -/
theorem le_countP_take {α : Type} {p : α → Bool} {lists : List (List α)} {n short : Nat}
    (hshort : (∀ l ∈ lists.map (List.take n), l.length < n) ∨
      ∃ l ∈ lists.map (List.take n), l.length = n ∧ (l.countP fun a => !p a) ≤ short)
    (hn : n ≤ lists.flatten.countP p) :
    n ≤ (lists.map (List.take n)).flatten.countP p + short := by
  rcases hshort with hbelow | ⟨l, hl, hlength, hothers⟩
  · -- Nothing is cut off.
    have hwhole : lists.map (List.take n) = lists := by
      refine (List.map_congr_left fun l hl => ?_).trans (List.map_id lists)
      have hlt := hbelow _ (List.mem_map_of_mem hl)
      rw [List.length_take] at hlt
      rw [List.take_of_length_le (by omega), id]
    rw [hwhole]
    omega
  · have hsplit : l.length = l.countP p + l.countP fun a => !p a := by
      simpa using List.length_eq_countP_add_countP p (l := l)
    have hinside := (List.sublist_flatten_of_mem hl).countP_le (p := p)
    omega

/-! ### Rows that satisfy the predicates -/

namespace Table

/-- The value of a row of a table in the column of a name. -/
def value (t : Table) (row : Tuple) (name : String) : Value :=
  (row.under? t.layout.columns name).getD .null

/-- All of some predicates hold of a row of a table.  Comparisons of key columns have their meaning,
and `free` says which of the other predicates hold. -/
def Satisfies (t : Table) (predicates : List Expr) (free : Expr → Prop) (row : Tuple) : Prop :=
  Expr.AllHold t.layout.primaryKey (t.value row) free predicates

variable {t : Table} {row : Tuple}

theorem key_eq_map (h : t.layout.KeyDescribed) (row : Tuple) :
    t.key row = t.layout.primaryKey.map (t.value row) := by
  rw [key_eq_filterMap, List.filterMap_eq_map_iff_forall_eq_some]
  intro name hname
  obtain ⟨v, hv⟩ := Option.isSome_iff_exists.mp (Tuple.isSome_under?.mpr (h name hname))
  rw [value, hv, Option.getD_some]

/-- The rows of a table have values of the key's types in the key columns. -/
theorem Kept.rowKeyTyped (h : t.Kept) (hrow : row ∈ t.rows) :
    RowKeyTyped t.layout.primaryKey t.layout.keyTypes (t.value row) := by
  have hfits := h.fits row hrow
  rw [key_eq_map h.described] at hfits
  refine (List.forall₂_iff_zip.mpr ⟨TableLayout.length_keyTypes h.described, ?_⟩).flip
  intro type name hzip
  have hmem := List.mem_map_of_mem (f := Prod.map id (t.value row)) hzip
  rw [← List.zip_map_right] at hmem
  exact hfits _ hmem

end Table

namespace ScanPlan

variable {settings : ScanSettings} {s : Store} {t : Table} {b : Pushdown} {row : Tuple}

/-- **Rows that satisfy the predicates** have keys in the planned range, if the engine reads the
values of the key's types without loss of order. -/
theorem Covers.contains_key (h : (b.plan settings).Covers s t)
    (hexact : ∀ type ∈ t.layout.keyTypes, type.IsExact) (hrow : row ∈ t.rows)
    {free : Expr → Prop} (hsatisfies : t.Satisfies b.predicates free row) :
    (b.plan settings).plannedRange.contains (t.key row) = true := by
  have hcolumns : b.target.keyColumns = t.layout.primaryKey := h.keyColumns
  have htypes : b.target.keyTypes = t.layout.keyTypes := h.keyTypes
  rw [Table.key_eq_map h.kept.described, ← hcolumns]
  have hholds : Expr.AllHold b.target.keyColumns (t.value row) free b.predicates := by
    rw [hcolumns]
    exact hsatisfies
  refine Pushdown.contains_plannedRange settings ?_ ?_ hholds
  · rwa [htypes]
  · rw [hcolumns, htypes]
    exact h.kept.rowKeyTyped hrow

end ScanPlan

/-! ### Scans with a limit -/

namespace ScanPlan

variable {s : Store} {t : Table}

/-- The rows that the readers of all shards give. -/
def given (p : ScanPlan) (t : Table) (limit : Option (Word .u64)) : List (List Tuple) :=
  t.partitions.map fun r => t.readRows (r.inter p.plannedRange) limit

theorem outputs_eq_map_given (p : ScanPlan) (t : Table) (limit : Option (Word .u64)) :
    p.outputs t limit = (p.given t limit).map (List.map (t.engineRow p.outColumns)) := by
  rw [outputs, given, List.map_map]
  rfl

theorem given_limit (p : ScanPlan) (t : Table) (limit : Word .u64) :
    p.given t (some limit) = (p.given t none).map (List.take limit.val.toNat) := by
  rw [given, given, List.map_map]
  rfl

theorem Covers.yields_given {p : ScanPlan} (h : p.Covers s t) (hfits : ¬ p.Overflows)
    {limit : Word .u64} (hlimit : 0 < limit.val) (hrows : p.rowLimit = some limit)
    (timeoutSeconds : Word .u64) :
    List.Forall₂ (fun shard rows =>
      shard.Yields timeoutSeconds s (rows.map (t.engineRow p.outColumns))) p.shards
      (p.given t (some limit)) := by
  have hyields := h.yields hfits timeoutSeconds
  rwa [hrows, Option.filter_some, decide_eq_true hlimit, if_pos rfl, outputs_eq_map_given,
    List.forall₂_map_right_iff] at hyields

end ScanPlan

namespace Pushdown

/-- What is left of predicates, columns and one limit. -/
theorem push_limit {target : ScanTarget} {options : ConnectionOptions} {predicates : List Expr}
    {projection : Option Schema} {limit : Word .u64} (hlimit : 0 < limit.val) :
    (start target options).push (some predicates) projection [limit] =
      (some predicates, ⟨target, options, predicates, projection, some limit⟩) := by
  cases projection <;> simp [push, start, pushPredicates, project, limitRows, hlimit]

end Pushdown

/-- **A limited scan.**  Of a table whose keys and split points have values of the key's types, in a
store in which nothing goes wrong, let an engine hand over predicates, columns and a limit.  It has
to evaluate all predicates again, on what the readers of all shards give: each the first rows, up to
the limit, of its part of the rows with keys in the planned range.  If as many of these rows as the
limit says satisfy the predicates, as many of those that are given do, but for the rows that one of
the readers which reach the limit gives and that do not satisfy them, or without exception if no
reader reaches the limit.  Where the engine reads the values of the key's types without loss of
order, all rows of the table that satisfy the predicates have keys in the planned range.  All this is
about plans in which no literal overflows, so that the planned range comes about. -/
theorem limited_scan (settings : ScanSettings) (s : Store) (path name : String) (t : Table)
    (layout : TableLayout) (options : ConnectionOptions) (predicates : List Expr)
    (projection : Option Schema) (limit timeoutSeconds : Word .u64) (satisfies : Tuple → Bool)
    (free : Tuple → Expr → Prop) (hmade : t.Made) (htable : s.tables.get? path = some t)
    (hdescribe : s.describeTable path = .ok layout) (hfaults : s.faults = .none)
    (hblock : 0 < s.blockSize) (hlife : 0 < settings.sessionSeconds.val)
    (hclock : settings.sessionSeconds.val < Store.clockSeconds)
    (hcolumns : ∀ columns ∈ projection, ∀ column ∈ columns.names,
      ∃ c ∈ layout.columns, c.name = column) (hlimit : 0 < limit.val)
    (hsatisfies : ∀ row ∈ t.rows, satisfies row = true ↔ t.Satisfies predicates (free row) row) :
    let pushed := (Pushdown.start (.ofLayout name path layout) options).push (some predicates)
      projection [limit]
    let plan := pushed.2.plan settings
    let given := plan.given t (some limit)
    ∀ range, plan.plannedRange? = some range →
    let inRange := t.rows.filter fun row => range.contains (t.key row)
    pushed.1 = some predicates ∧
    List.Forall₂ (fun shard rows =>
      shard.Yields timeoutSeconds s (rows.map (t.engineRow plan.outColumns))) plan.shards given ∧
    (∀ short, ((∀ part ∈ given, part.length < limit.val.toNat) ∨
        ∃ part ∈ given, part.length = limit.val.toNat ∧
          (part.countP fun row => !satisfies row) ≤ short) →
      limit.val.toNat ≤ inRange.countP satisfies →
      limit.val.toNat ≤ given.flatten.countP satisfies + short) ∧
    ((∀ type ∈ t.layout.keyTypes, type.IsExact) →
      inRange.countP satisfies = t.rows.countP satisfies) := by
  rw [Pushdown.push_limit hlimit]
  intro pushed plan given range hrange inRange
  have hcovers : plan.Covers s t :=
    covers_plan hmade htable hdescribe hfaults hblock hlife hclock rfl hcolumns
  obtain ⟨hfits, rfl⟩ := ScanPlan.plannedRange?_eq_some_iff.mp hrange
  refine ⟨rfl, hcovers.yields_given hfits hlimit rfl timeoutSeconds, ?_, ?_⟩
  · have hparts : (plan.given t none).flatten = inRange := hcovers.flatMap_readRows
    have hgiven : given = (plan.given t none).map (List.take limit.val.toNat) :=
      plan.given_limit t limit
    intro short hshort hmany
    rw [hgiven] at hshort ⊢
    rw [← hparts] at hmany
    exact le_countP_take hshort hmany
  · intro hexact
    rw [List.countP_filter]
    refine List.countP_congr ?_
    intro row hrow
    rw [Bool.and_eq_true, and_iff_left_iff_imp]
    intro hholds
    exact hcovers.contains_key hexact hrow ((hsatisfies row hrow).mp hholds)

/-- The tracks of later discs than the first. -/
def laterDiscs : List Expr :=
  [.predicate .gt [.column ["disc"], .literal (.int .int32 1)]]

def isLater (row : Tuple) : Bool := row[1]? = some (.int .int32 2)

theorem satisfies_laterDiscs_iff {t : Table} (hkey : t.layout.primaryKey = ["disc", "title"])
    {free : Expr → Prop} {row : Tuple} : t.Satisfies laterDiscs free row ↔
      (t.value row "disc").toEngine.exactCmp (.int .int32 1) = some .gt := by
  rw [Table.Satisfies, hkey, laterDiscs, Expr.AllHold, Expr.AllHold, and_true]
  exact Iff.rfl

/-- One of the tracks, as many as were asked for. -/
def laterTrack (t : Table) : Option (List Expr) × Pushdown :=
  (Pushdown.start (.ofLayout "tracks" "/local/tracks" t.description) .empty).push (some laterDiscs)
    none [1]

/-- The track of the second disc has a shard of its own, so its reader gives it. -/
theorem limited_scan_tracks :
    ∃ given, List.Forall₂ (fun shard rows =>
        shard.Yields 60 trackStore (rows.map (trackTable.engineRow ["seconds", "disc", "title"])))
        ((laterTrack trackTable).2.plan Settings.builtin.scan).shards given ∧
      1 ≤ given.flatten.countP isLater := by
  have htable : trackStore.tables.get? "/local/tracks" = some trackTable := by decide +kernel
  have hdescribe : trackStore.describeTable "/local/tracks" = .ok trackTable.description := by
    rw [Store.describeTable, Store.view?, htable]
  have hsatisfies : ∀ row ∈ trackTable.rows,
      isLater row = true ↔ trackTable.Satisfies laterDiscs (fun _ => True) row := by
    intro row hrow
    rw [satisfies_laterDiscs_iff (by decide +kernel)]
    revert row
    decide +kernel
  obtain ⟨-, hyields, hcount, -⟩ := limited_scan Settings.builtin.scan trackStore "/local/tracks"
    "tracks" trackTable trackTable.description .empty laterDiscs none 1 60 isLater
    (fun _ _ => True) made_trackTable htable hdescribe (by decide +kernel) (by decide +kernel)
    (by decide +kernel) (by decide +kernel) (by simp) (by decide) hsatisfies
    ⟨.ofTuple [.optional (.int .int32 1)] true, .ofTuple [] true⟩ (by decide +kernel)
  have hread : ((laterTrack trackTable).2.plan Settings.builtin.scan).outColumns =
      ["seconds", "disc", "title"] := by decide +kernel
  refine ⟨_, hread ▸ hyields, hcount 0 (.inr ?_) (by decide +kernel)⟩
  exact ⟨[[.int .uint32 246, .int .int32 2, .text "Amelia"]], by decide +kernel, by decide +kernel,
    by decide +kernel⟩

/-- The tracks in one shard. -/
def looseTable : Table := ((Table.empty trackLayout).insertRows trackRows).2

def looseStore : Store :=
  let s := ((Store.new "/local").createTable "/local/tracks" trackLayout).2
  (s.insertRows "/local/tracks" trackRows).2

/-- There is a track of a later disc than the first, and the one track that the scan gives is none:
the planned range takes in the first disc, on which the limit is spent. -/
theorem limited_scan_loses_track :
    looseStore.tables.get? "/local/tracks" = some looseTable ∧
    (laterTrack looseTable).1 = some laterDiscs ∧
    (∃ row ∈ looseTable.rows, looseTable.Satisfies laterDiscs (fun _ => True) row) ∧
    List.Forall₂ (fun shard rows =>
      shard.Yields 60 looseStore (rows.map (looseTable.engineRow ["seconds", "disc", "title"])))
      ((laterTrack looseTable).2.plan Settings.builtin.scan).shards
      [[[.int .uint32 301, .int .int32 1, .text "Hejira"]]] ∧
    ¬ looseTable.Satisfies laterDiscs (fun _ => True)
      [.int .uint32 301, .int .int32 1, .text "Hejira"] := by
  have htable : looseStore.tables.get? "/local/tracks" = some looseTable := by decide +kernel
  have hdescribe : looseStore.describeTable "/local/tracks" = .ok looseTable.description := by
    rw [Store.describeTable, Store.view?, htable]
  have hkey : looseTable.layout.primaryKey = ["disc", "title"] := by decide +kernel
  refine ⟨htable, rfl, ?_, ?_, ?_⟩
  · refine ⟨[.int .uint32 246, .int .int32 2, .text "Amelia"], by decide +kernel, ?_⟩
    rw [satisfies_laterDiscs_iff hkey]
    decide +kernel
  · have hcolumns : (laterTrack looseTable).2.projection = none := rfl
    have hcovers : ((laterTrack looseTable).2.plan Settings.builtin.scan).Covers looseStore
        looseTable :=
      covers_plan made_tracks htable hdescribe (by decide +kernel) (by decide +kernel)
        (by decide +kernel) (by decide +kernel) rfl (by simp [hcolumns])
    have hread : ((laterTrack looseTable).2.plan Settings.builtin.scan).outColumns =
        ["seconds", "disc", "title"] := by decide +kernel
    have hgiven : ((laterTrack looseTable).2.plan Settings.builtin.scan).given looseTable (some 1) =
        [[[.int .uint32 301, .int .int32 1, .text "Hejira"]]] := by decide +kernel
    have hfits : ¬ ((laterTrack looseTable).2.plan Settings.builtin.scan).Overflows := by
      rw [← ScanPlan.plannedRange?_eq_none_iff]
      decide +kernel
    rw [← hread, ← hgiven]
    exact hcovers.yields_given hfits (by decide) rfl 60
  · rw [satisfies_laterDiscs_iff hkey]
    decide +kernel

end ShardScan
