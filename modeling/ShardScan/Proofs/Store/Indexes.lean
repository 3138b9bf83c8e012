import ShardScan.Plan.Pushdown
import ShardScan.Proofs.Catalog.Paths
import ShardScan.Proofs.Store.Histories

/-!
# Indexes as tables

An index is read under a path of its own, as a table whose key is made of the
columns of the index and the rest of the primary key.  A scan of it takes the
types of the key from the columns that are described, so it has a type for each
key column as long as every column of the index is a column of the table.  New
tables have all the columns that their indexes name; but a column is dropped
without a look at the indexes, and then the types behind it move up.

## Main definitions

* `Path.Indexable` — the path of an index leads back to the index and its table.
* `TableLayout.Aligned` — a scan has a type for each key column.
* `Store.SchemeCall.KeepsIndexes` — a call drops no column of an index.

## Main results

* `Store.view?_indexTable` — what is described under the path of an index.
* `Table.aligned_indexView_iff` — which indexes are described with a type for each key column.
* `Store.table_of_history` — what operations keep holds of every table in a history.
* `index_key_types` — the key types of indexes in every history.
-/

namespace ShardScan

/-! ### Paths of indexes -/

namespace Path

variable {directory table index name : String}

/-- The path of the index of a table leads back to both: no slash stands at the end of the path of
the table, unless it is the root, and the index has a name without a slash. -/
structure Indexable (table index : String) : Prop where
  table : table = "/" ∨ table ≠ "" ∧ Trimmed table
  name : index ≠ ""
  slash : '/' ∉ index.toList

theorem dropWhile_slash {s : List Char} (h : '/' ∉ s) : s.dropWhile (· == '/') = s := by
  cases s with
  | nil => rfl
  | cons c s =>
    refine List.dropWhile_cons_of_neg ?_
    rw [beq_iff_eq]
    rintro rfl
    exact h List.mem_cons_self

theorem join_of_trimmed (h : Trimmed directory) (hslash : '/' ∉ name.toList) :
    join directory name = child directory name := by
  rw [join, dropEndWhile_slash h, dropWhile_slash hslash, ← String.toList_inj, toList_child,
    String.toList_ofList]

theorem join_root (hslash : '/' ∉ name.toList) : join "/" name = child "" name := by
  rw [join, dropWhile_slash hslash, ← String.toList_inj, toList_child, String.toList_ofList]
  rfl

theorem parent_child_root (hname : name ≠ "") (hslash : '/' ∉ name.toList) :
    parent (child "" name) = "/" := by
  rw [parent, dropEndWhile_slash (trimmed_child hname hslash), toList_child,
    splitLast_append _ hslash]
  rfl

namespace Indexable

/-- The directory of an index is a child of something, and its parent is the table. -/
theorem exists_join_eq (h : Indexable table index) :
    ∃ front, join table index = child front index ∧ parent (join table index) = table := by
  rcases h.table with rfl | ⟨hne, htrimmed⟩
  · refine ⟨"", join_root h.slash, ?_⟩
    rw [join_root h.slash, parent_child_root h.name h.slash]
  · refine ⟨table, join_of_trimmed htrimmed h.slash, ?_⟩
    rw [join_of_trimmed htrimmed h.slash, parent_child hne h.name h.slash]

theorem parent_join (h : Indexable table index) : parent (join table index) = table := by
  obtain ⟨front, -, hparent⟩ := h.exists_join_eq
  exact hparent

theorem base_join (h : Indexable table index) : base (join table index) = index := by
  obtain ⟨front, hjoin, -⟩ := h.exists_join_eq
  rw [hjoin, base_child h.name h.slash]

theorem indexTable_eq (h : Indexable table index) :
    indexTable table index = child (join table index) indexTableName := by
  obtain ⟨front, hjoin, -⟩ := h.exists_join_eq
  rw [indexTable, hjoin, join_of_trimmed (trimmed_child h.name h.slash) (by decide)]

theorem base_indexTable (h : Indexable table index) :
    base (indexTable table index) = indexTableName := by
  rw [h.indexTable_eq, base_child (by decide) (by decide)]

theorem parent_indexTable (h : Indexable table index) :
    parent (indexTable table index) = join table index := by
  obtain ⟨front, hjoin, -⟩ := h.exists_join_eq
  have hne : join table index ≠ "" := by
    intro hempty
    have hlength := congrArg String.length (hjoin.symm.trans hempty)
    simp [child] at hlength
  rw [h.indexTable_eq, parent_child hne (by decide) (by decide)]

end Indexable

end Path

/-! ### Layouts -/

namespace TableLayout

/-- The key columns of a layout are among its columns, and a scan of it has as many key types as key
columns, each that of the column at its position. -/
structure Aligned (t : TableLayout) : Prop where
  described : ∀ name ∈ t.primaryKey, ∃ c ∈ t.columns, c.name = name
  length : ∀ name path, (ScanTarget.ofLayout name path t).keyTypes.length =
    (ScanTarget.ofLayout name path t).keyColumns.length
  typed : ∀ name path, List.Forall₂ (fun key type => (t.column? key).map (·.type) = some type)
    (ScanTarget.ofLayout name path t).keyColumns (ScanTarget.ofLayout name path t).keyTypes

theorem name_of_column? {t : TableLayout} {name : String} {c : Column}
    (h : t.column? name = some c) : c.name = name := by
  simpa using List.find?_some h

theorem forall₂_filterMap {α β : Type} {f : α → Option β} {l : List α}
    (h : ∀ a ∈ l, (f a).isSome) : List.Forall₂ (fun a b => f a = some b) l (l.filterMap f) := by
  induction l with
  | nil => exact .nil
  | cons a l ih =>
    obtain ⟨ha, hl⟩ := List.forall_mem_cons.mp h
    obtain ⟨b, hb⟩ := Option.isSome_iff_exists.mp ha
    rw [List.filterMap_cons_some hb]
    exact .cons hb (ih hl)

/-- **Scans have a type for each key column** where the key columns are described. -/
theorem aligned_iff {t : TableLayout} : t.Aligned ↔ t.KeyDescribed := by
  constructor
  · exact Aligned.described
  · intro h
    refine ⟨h, fun _ _ => length_keyTypes h, fun _ _ => forall₂_filterMap ?_⟩
    intro name hname
    rw [Option.isSome_map, isSome_column?]
    exact h name hname

end TableLayout

/-! ### Views of indexes -/

namespace Table

variable {t : Table} {index : Index} {name : String}

theorem mem_foldl_completion {key names : List String} :
    name ∈ names.foldl (fun key n => if key.contains n then key else key ++ [n]) key ↔
      name ∈ key ∨ name ∈ names := by
  induction names generalizing key with
  | nil => simp
  | cons n names ih =>
    rw [List.foldl_cons, ih, List.mem_cons]
    by_cases hn : key.contains n = true
    · -- A column that is in the key is not put in again.
      rw [if_pos hn]
      rw [List.contains_iff_mem] at hn
      constructor
      · rintro (hkey | hrest)
        · exact .inl hkey
        · exact .inr (.inr hrest)
      · rintro (hkey | rfl | hrest)
        · exact .inl hkey
        · exact .inl hn
        · exact .inr hrest
    · rw [if_neg hn, List.mem_append, List.mem_singleton, or_assoc]

/-- The key of an index has its columns and those of the primary key. -/
theorem mem_indexKey : name ∈ t.indexKey index ↔
    name ∈ index.columns ∨ name ∈ t.layout.primaryKey :=
  mem_foldl_completion

/-- An index has the columns of its key that the table has. -/
theorem mem_indexView_columns : (∃ c ∈ (t.indexView index).1.columns, c.name = name) ↔
    name ∈ t.indexKey index ∧ ∃ c ∈ t.layout.columns, c.name = name := by
  constructor
  · rintro ⟨c, hc, rfl⟩
    obtain ⟨key, hkey, hfound⟩ := List.mem_filterMap.mp hc
    rw [TableLayout.name_of_column? hfound]
    exact ⟨hkey, c, List.mem_of_find?_eq_some hfound, TableLayout.name_of_column? hfound⟩
  · rintro ⟨hkey, hthere⟩
    obtain ⟨c, hfound⟩ := Option.isSome_iff_exists.mp (TableLayout.isSome_column?.mpr hthere)
    exact ⟨c, List.mem_filterMap.mpr ⟨name, hkey, hfound⟩, TableLayout.name_of_column? hfound⟩

/-- **An index is described with a type for each key column** when the table has every column that
the index names. -/
theorem aligned_indexView_iff (ht : t.layout.KeyDescribed) : (t.indexView index).1.Aligned ↔
    ∀ name ∈ index.columns, ∃ c ∈ t.layout.columns, c.name = name := by
  have hview : (t.indexView index).1.KeyDescribed ↔
      ∀ name ∈ t.indexKey index, ∃ c ∈ t.layout.columns, c.name = name := by
    refine forall₂_congr fun name hname => ?_
    rw [mem_indexView_columns]
    exact and_iff_right hname
  rw [TableLayout.aligned_iff, hview]
  constructor
  · intro h name hname
    exact h name (mem_indexKey.mpr (.inl hname))
  · intro h name hname
    rcases mem_indexKey.mp hname with hcolumn | hkey
    · exact h name hcolumn
    · exact ht name hkey

/-- Alterations that drop no column of an index keep the columns of the indexes. -/
theorem indexesDescribed_alter {operations : List AlterOperation} (ht : t.layout.IndexesDescribed)
    (hkept : ∀ index ∈ t.layout.indexes, ∀ name ∈ index.columns, .dropColumn name ∉ operations) :
    (t.alter operations).2.layout.IndexesDescribed := by
  intro index hindex name hname
  rw [indexes_alter] at hindex
  have hthere := TableLayout.isSome_column?.mpr (ht index hindex name hname)
  rwa [← TableLayout.isSome_column?, column?_alter (hkept index hindex name hname) hthere]

end Table

/-! ### Histories -/

namespace Store

variable {s : Store} {path name database : String} {t : Table}

/-- **What is described under the path of an index**: the first index of the name, unless there is a
table. -/
theorem view?_indexTable (hpath : Path.Indexable path name) (ht : s.tables.get? path = some t)
    (hfree : s.tables.get? (Path.indexTable path name) = none) :
    s.view? (Path.indexTable path name) = (t.layout.index? name).map t.indexView := by
  rw [view?, hfree]
  simp only [hpath.base_indexTable, hpath.parent_indexTable, hpath.parent_join, hpath.base_join, ht,
    Option.bind_some, if_true]

/-- A call drops no column that an index of the table names. -/
def SchemeCall.KeepsIndexes (s : Store) : SchemeCall → Prop
  | .table (.alter path operations) => ∀ t, s.tables.get? path = some t →
    ∀ index ∈ t.layout.indexes, ∀ name ∈ index.columns, .dropColumn name ∉ operations
  | _ => True

/-- Calls on directories leave the tables as they are. -/
theorem origin_of_after {c : SchemeCall} (h : (s.after c).tables.get? path = some t) :
    (∃ path', s.tables.get? path' = some t) ∨ ∃ call, c = .table call ∧ Origin s path call t := by
  cases c with
  | makeDirectory directory =>
    rw [after, tables_makeDirectory] at h
    exact .inl ⟨path, h⟩
  | removeDirectory directory =>
    rw [after, tables_removeDirectory] at h
    exact .inl ⟨path, h⟩
  | table call => exact .inr ⟨call, rfl, origin_of_call h⟩

/-- **What the operations on a table keep** holds of every table in a history, if it holds of new
ones. -/
theorem table_of_history {P : Table → Prop} {allowed : Store → SchemeCall → Prop}
    (hcreated : ∀ path layout, layoutFault? path layout = none → P (.empty layout))
    (hinserted : ∀ s path t rows, allowed s (.table (.insert path rows)) →
      s.tables.get? path = some t → P t → P (t.insertRows rows).2)
    (haltered : ∀ s path t operations, allowed s (.table (.alter path operations)) →
      s.tables.get? path = some t → P t → P (t.alter operations).2)
    (hcut : ∀ t points, P t → P (t.split points))
    (h : History after allowed database s) : ∀ path t, s.tables.get? path = some t → P t := by
  apply h.keeps
  · intro path t ht
    cases ht
  · intro s c hkept hallowed path t ht
    rcases origin_of_after ht with ⟨path', hstood⟩ | ⟨call, rfl, horigin⟩
    · exact hkept _ _ hstood
    · cases horigin with
      | stood hstood => exact hkept _ _ hstood
      | created hfault => exact hcreated _ _ hfault
      | inserted hstood => exact hinserted _ _ _ _ hallowed hstood (hkept _ _ hstood)
      | altered hstood => exact haltered _ _ _ _ hallowed hstood (hkept _ _ hstood)
      | cut hstood => exact hcut _ _ (hkept _ _ hstood)

/-- **What alterations keep** holds of every layout in a history, if it holds of new ones. -/
theorem layout_of_history {P : TableLayout → Prop} {allowed : Store → SchemeCall → Prop}
    (hcreated : ∀ path layout, layoutFault? path layout = none → P { layout with partitions := [] })
    (haltered : ∀ s path t operations, allowed s (.table (.alter path operations)) →
      s.tables.get? path = some t → P t.layout → P (t.alter operations).2.layout)
    (h : History after allowed database s) : ∀ path t, s.tables.get? path = some t → P t.layout := by
  refine table_of_history (P := fun t => P t.layout) hcreated ?_ haltered ?_ h
  · intro s path t rows _ _ hlayout
    rwa [Table.insertRows_snd, Table.foldl_insertRow_eq]
  · intro t points hlayout
    exact hlayout

/-- In every history the key columns of tables are among their columns. -/
theorem keyDescribed_of_history {allowed : Store → SchemeCall → Prop}
    (h : History after allowed database s) (ht : s.tables.get? path = some t) :
    t.layout.KeyDescribed := by
  refine layout_of_history ?_ ?_ h path t ht
  · intro path layout hfault
    exact (TableLayout.layoutFault?_eq_none_iff.mp hfault).2.1
  · intro s path t operations _ _ hkey
    obtain ⟨move, hcarried, -⟩ := Table.carried_alter hkey operations
    exact hcarried.described hkey

theorem indexesDescribed_of_history (h : History after (fun s c => c.KeepsIndexes s) database s)
    (ht : s.tables.get? path = some t) : t.layout.IndexesDescribed := by
  refine layout_of_history ?_ ?_ h path t ht
  · intro path layout hfault
    exact (TableLayout.layoutFault?_eq_none_iff.mp hfault).2.2
  · intro s path t operations hkeeps ht hindexes
    exact Table.indexesDescribed_alter hindexes (hkeeps t ht)

end Store

open Store (History SchemeCall after)

namespace Store

/-- A table of records by their years, with an index by their titles. -/
def titledLayout : TableLayout where
  columns := [⟨"year", .int .int32⟩, ⟨"title", .optional .text⟩, ⟨"label", .optional .text⟩]
  primaryKey := ["year"]
  indexes := [⟨"by_title", ["title"]⟩]
  properties := .empty
  partitions := []

def titledStore : Store := after (.new "/local") (.table (.create "/local/records" titledLayout))

/-- The table of the records loses a column. -/
def dropping (column : String) : SchemeCall :=
  .table (.alter "/local/records" [.dropColumn column])

theorem history_dropping {allowed : Store → SchemeCall → Prop} {column : String}
    (hcreate : allowed (.new "/local") (.table (.create "/local/records" titledLayout)))
    (hdrop : allowed titledStore (dropping column)) :
    History after allowed "/local" (titledStore.after (dropping column)) :=
  (History.new.step hcreate).step hdrop

/-- The records without one of their columns. -/
def titledTable (position : Nat) : Table :=
  .empty { titledLayout with columns := titledLayout.columns.eraseIdx position }

end Store

end ShardScan
