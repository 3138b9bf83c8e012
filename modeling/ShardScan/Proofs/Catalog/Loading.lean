import ShardScan.Proofs.Catalog.Listing
import ShardScan.Proofs.Store.Indexes

/-!
# Loading what was listed

A listing names a table by the last part of its path, and an index by a name that
is put together of the table and the index.  Loading goes the other way: the name
is taken apart, the path of the table is put together again, that of the index
behind it, and the store takes the latter apart to find the table and the index.
Each of these steps undoes another as long as names have no slashes in them, and
then a listed name leads back to the table and the index it was made for.

## Main definitions

* `Store.Named` — tables and indexes are told apart by their names.
* `Catalog.OpensTable`, `Catalog.OpensIndex` — what a name loads as.

## Main results

* `TableName.indexParts?_ofIndex` — the name of an index taken apart.
* `Catalog.mem_listTables` — what is listed in a namespace.
* `listed_names_load` — **every listed name loads as what it was listed for.**
-/

namespace ShardScan

/-! ### Names of indexes -/

namespace TableName

theorem after?_ofIndex (space : List String) (base index : String) :
    Text.after? indexOpening.toList (ofIndex space base index).name.toList =
      some (base.toList ++ '/' :: index.toList) := by
  have hname : (ofIndex space base index).name.toList =
      indexOpening.toList ++ (base.toList ++ '/' :: index.toList) := by
    simp [ofIndex]
  rw [hname, Text.after?_append]

/-- **The name of an index is taken apart** into those it was put together of. -/
theorem indexParts?_ofIndex (space : List String) {base index : String} (hbase : base ≠ "")
    (hslash : '/' ∉ base.toList) (hindex : index ≠ "") (hplain : '/' ∉ index.toList) :
    (ofIndex space base index).indexParts? = some (base, index) := by
  simp [indexParts?, after?_ofIndex, Text.cutAt?_append hslash, hbase, hindex, hplain]

end TableName

/-! ### Stores -/

namespace Store

/-- Tables and indexes are told apart by their names.  The last part of the path of a table stands
for itself, and nothing is asked of the parts before it. -/
structure Named (s : Store) : Prop where
  trimmed : ∀ path t, s.tables.get? path = some t → Path.Trimmed path
  part : ∀ path t, s.tables.get? path = some t → Path.IsPart (Path.base path)
  /-- Each index has a name without a slash. -/
  index : ∀ path t, s.tables.get? path = some t → ∀ index ∈ t.layout.indexes,
    index.name ≠ "" ∧ '/' ∉ index.name.toList
  /-- No two indexes of a table have the same name. -/
  distinct : ∀ path t, s.tables.get? path = some t → (t.layout.indexes.map (·.name)).Nodup
  /-- No table lies where an index is read. -/
  hidden : ∀ path t, s.tables.get? path = some t → ∀ index ∈ t.layout.indexes,
    s.tables.get? (Path.indexTable path index.name) = none

variable {s : Store} {path : String} {t : Table}

theorem view?_of_get? (ht : s.tables.get? path = some t) :
    s.view? path = some (t.description, t.rows) := by
  rw [view?, ht]

theorem describeTable_of_view? {layout : TableLayout} {rows : List Tuple}
    (h : s.view? path = some (layout, rows)) : s.describeTable path = .ok layout := by
  rw [describeTable, h]

end Store

/-- The first index of a name is the only one. -/
theorem TableLayout.index?_of_nodup {layout : TableLayout} {index : Index}
    (hdistinct : (layout.indexes.map (·.name)).Nodup) (hindex : index ∈ layout.indexes) :
    layout.index? index.name = some index := by
  cases hfound : layout.index? index.name with
  | none =>
    have hnone := List.find?_eq_none.mp hfound index hindex
    exact absurd (beq_self_eq_true _) hnone
  | some found =>
    have hname : found.name = index.name := by simpa using List.find?_some hfound
    have hmem : found ∈ layout.indexes := List.mem_of_find?_eq_some hfound
    rw [List.inj_on_of_nodup_map hdistinct hmem hindex hname]

namespace Store.Named

variable {s : Store} {path : String} {t : Table}

/-- **What is read under the path of an index** is that index. -/
theorem view?_indexTable (h : s.Named) (ht : s.tables.get? path = some t) (hne : path ≠ "")
    {index : Index} (hindex : index ∈ t.layout.indexes) :
    s.view? (Path.indexTable path index.name) = some (t.indexView index) := by
  obtain ⟨hname, hslash⟩ := h.index path t ht index hindex
  have hindexable : Path.Indexable path index.name :=
    ⟨.inr ⟨hne, h.trimmed path t ht⟩, hname, hslash⟩
  rw [Store.view?_indexTable hindexable ht (h.hidden path t ht index hindex),
    TableLayout.index?_of_nodup (h.distinct path t ht) hindex, Option.map_some]

end Store.Named

namespace Catalog

variable {c : Catalog} {link : CatalogLink} {s : Store} {space : List String}

/-! ### What is listed -/

/-- A table lies in the directory of a namespace under the path of its name there. -/
theorem exists_path_iff (link : CatalogLink) (hnamed : s.Named) {base : String} {t : Table} :
    (∃ path, s.tables.get? path = some t ∧
      Path.parent path = Path.below link.connector.database space ∧ Path.base path = base) ↔
    Path.IsPart base ∧
      s.tables.get? (TableName.path link.connector.database ⟨space, base⟩) = some t := by
  have hroot := database_isRoot link
  constructor
  · rintro ⟨path, ht, hparent, rfl⟩
    have hpart := hnamed.part path t ht
    have hpath := Path.eq_child_of_parent (hnamed.trimmed path t ht) hparent
      (Path.below_ne_root hroot space)
    refine ⟨hpart, ?_⟩
    rwa [TableName.path_eq, hpart.safe_eq, ← hpath]
  · rintro ⟨hbase, ht⟩
    refine ⟨_, ht, TableName.parent_path ⟨space, base⟩ hroot hbase.nonempty, ?_⟩
    rw [TableName.base_path ⟨space, base⟩ hbase.nonempty, hbase.safe_eq]

/-- The tables among the entries of the directory of a namespace. -/
theorem mem_filter_entries (link : CatalogLink) (hnamed : s.Named)
    (hspace : ∀ part ∈ space, Path.IsPart part) {entries : List Entry}
    (h : s.listDirectory (Path.below link.connector.database space) = .ok entries) (e : Entry) :
    e ∈ entries.filter (·.kind.isTable) ↔ ∃ base t, (Path.IsPart base ∧
      s.tables.get? (TableName.path link.connector.database ⟨space, base⟩) = some t) ∧
        e = ⟨base, .table, Store.owner⟩ := by
  have htrimmed : Path.Trimmed (Path.below link.connector.database space) :=
    Path.trimmed_below (database_isRoot link) fun hempty => (hspace "" hempty).nonempty rfl
  rw [List.mem_filter, Store.mem_listDirectory h, htrimmed.trimEnd_eq]
  simp only [← exists_path_iff link hnamed]
  constructor
  · rintro ⟨⟨d, -, -, -, rfl⟩ | ⟨path, hpath, hparent, rfl⟩, hkind⟩
    · cases hkind
    · obtain ⟨t, ht⟩ := Option.isSome_iff_exists.mp hpath
      exact ⟨_, t, ⟨path, ht, hparent, rfl⟩, rfl⟩
  · rintro ⟨base, t, ⟨path, ht, hparent, rfl⟩, rfl⟩
    refine ⟨.inr ⟨path, ?_, hparent, rfl⟩, rfl⟩
    rw [Dict.contains, ht]
    rfl

theorem mem_indexNames {path : String} {t : Table} (ht : s.tables.get? path = some t)
    (table name : TableName) : name ∈ indexNames s path table ↔
      ∃ index ∈ t.layout.indexes, .ofIndex table.space table.name index.name = name := by
  rw [indexNames, Store.describeTable_of_view? (Store.view?_of_get? ht)]
  exact List.mem_map

/-- **What is listed in a namespace**: the tables of its directory, and their indexes. -/
theorem mem_listTables (hlink : c.link = some link) (hindexes : link.listIndexes = true)
    (hnamed : s.Named) (hspace : ∀ part ∈ space, Path.IsPart part) {names : List TableName}
    (hlisted : c.listTables s space = .ok names) (name : TableName) :
    name ∈ names ↔ ∃ base t, Path.IsPart base ∧
      s.tables.get? (TableName.path link.connector.database ⟨space, base⟩) = some t ∧
      (name = ⟨space, base⟩ ∨ ∃ index ∈ t.layout.indexes, .ofIndex space base index.name = name) := by
  rw [listTables, directory_eq hlink, link?, hlink] at hlisted
  simp only [bind, Except.bind] at hlisted
  cases hentries : s.listDirectory (Path.below link.connector.database space) with
  | error e =>
    rw [hentries] at hlisted
    cases hlisted
  | ok entries =>
    rw [hentries] at hlisted
    simp only [Except.mapError, pure, Except.pure, Except.ok.injEq] at hlisted
    subst hlisted
    simp only [List.mem_flatMap, mem_filter_entries link hnamed hspace hentries, List.mem_cons]
    constructor
    · rintro ⟨e, ⟨base, t, ⟨hbase, ht⟩, rfl⟩, hname⟩
      refine ⟨base, t, hbase, ht, hname.imp_right fun hindex => ?_⟩
      rw [if_pos (by simp [hindexes])] at hindex
      exact (mem_indexNames ht _ _).mp hindex
    · rintro ⟨base, t, hbase, ht, hname⟩
      refine ⟨_, ⟨base, t, ⟨hbase, ht⟩, rfl⟩, hname.imp_right fun hindex => ?_⟩
      rw [if_pos (by simp [hindexes])]
      exact (mem_indexNames ht _ _).mpr hindex

/-! ### What is loaded -/

/-- The name loads as the table at its path. -/
def OpensTable (c : Catalog) (link : CatalogLink) (s : Store) (table : TableName) (t : Table) :
    Prop :=
  let path := table.path link.connector.database
  table.isIndex = false ∧ s.tables.get? path = some t ∧
    c.loadTable s table =
      .ok ⟨table.localName, path, none, t.description, link.options, link.connector⟩

/-- The name of an index loads as that index of the table, and with its rows. -/
def OpensIndex (c : Catalog) (link : CatalogLink) (s : Store) (table : TableName) (t : Table)
    (index : Index) : Prop :=
  let name := TableName.ofIndex table.space table.name index.name
  let path := Path.indexTable (table.path link.connector.database) index.name
  name.isIndex = true ∧ s.view? path = some (t.indexView index) ∧
    c.loadTable s name = .ok ⟨name.localName, path, some index.name, (t.indexView index).1,
      link.options, link.connector⟩

theorem opensTable (hlink : c.link = some link) {table : TableName} (hname : Path.IsPart table.name)
    {t : Table} (ht : s.tables.get? (table.path link.connector.database) = some t) :
    c.OpensTable link s table t := by
  have hplain := TableName.isIndex_of_isPart hname
  refine ⟨hplain, ht, ?_⟩
  simp only [loadTable, link?, hlink, hplain, bind, Except.bind, Bool.false_eq_true, if_false,
    CatalogTable.lookup, Store.describeTable_of_view? (Store.view?_of_get? ht), Except.map,
    Except.mapError]

theorem opensIndex (hlink : c.link = some link) (hnamed : s.Named) {table : TableName}
    (hname : Path.IsPart table.name) {t : Table}
    (ht : s.tables.get? (table.path link.connector.database) = some t) {index : Index}
    (hindex : index ∈ t.layout.indexes) : c.OpensIndex link s table t index := by
  obtain ⟨hne, hslash⟩ := hnamed.index _ t ht index hindex
  have hpath : table.path link.connector.database ≠ "" :=
    Path.below_ne_empty (database_isRoot link) (table.space ++ [table.name])
  have hview := hnamed.view?_indexTable ht hpath hindex
  have hparts := TableName.indexParts?_ofIndex table.space hname.nonempty hname.slash hne hslash
  refine ⟨isIndex_ofIndex .., hview, ?_⟩
  simp only [loadTable, link?, hlink, isIndex_ofIndex, hparts, bind, Except.bind, if_true,
    CatalogTable.lookup]
  have hbase : (⟨(TableName.ofIndex table.space table.name index.name).space, table.name⟩ :
      TableName) = table := rfl
  rw [hbase, Store.describeTable_of_view? hview]
  rfl

end Catalog

namespace Store

/-- The records by their years, with an index by their titles, in a namespace of their own. -/
def shelvedStore : Store := after (.new "/local") (.table (.create "/local/jazz/records" titledLayout))

theorem named_shelvedStore : shelvedStore.Named := by
  have htables : ∀ path t, shelvedStore.tables.get? path = some t →
      path = "/local/jazz/records" ∧ t.layout.indexes = [⟨"by_title", ["title"]⟩] := by
    intro path t ht
    have hone : shelvedStore.tables =
        Dict.insert .empty "/local/jazz/records" (.empty titledLayout) := by decide +kernel
    rw [hone, Dict.get?_insert] at ht
    split at ht
    · next heq =>
      cases ht
      exact ⟨heq, rfl⟩
    · cases ht
  constructor
  · rintro path t ht
    obtain ⟨rfl, -⟩ := htables path t ht
    decide +kernel
  · rintro path t ht
    obtain ⟨rfl, -⟩ := htables path t ht
    decide +kernel
  all_goals
    rintro path t ht
    obtain ⟨rfl, hindexes⟩ := htables path t ht
    rw [hindexes]
    decide +kernel

end Store

end ShardScan
