import ShardScan.Proofs.Catalog.Changes

/-!
# Listing and loading

A catalog finds a table by its path, and lists it by way of the directory that
encloses the path.  The two agree as long as every table lies in a directory
that is there.  Making a table makes its directory, and a directory with tables
in it is not removed; but moving a table does not make the directory it is moved
to, and one that is moved to where there is none can be loaded and not be listed.
Neither is a table without a name found where it is listed: the store passes over
the slash at the end of its path.

## Main definitions

* `Catalog.Change.Placed` — the change names its table, and moves it to a directory that is there.
* `Catalog.Reached` — the stores that such changes lead to.
* `Store.Housed` — every table lies in a directory.

## Main results

* `Store.mem_listDirectory` — what is listed in a directory.
* `Catalog.housed_apply` — what a change keeps.
* `listing_agrees_with_loading` — a table can be loaded when it is listed, and only then.
-/

namespace ShardScan

/-! ### Tables in directories -/

theorem TableLayout.indexes_ofSchema {schema : Schema} {properties : Dict String}
    {layout : TableLayout} (h : TableLayout.ofSchema schema properties = .ok layout) :
    layout.indexes = [] := by
  rw [ofSchema] at h
  cases hcolumns : schema.fields.mapM Field.toColumn with
  | error e =>
    rw [hcolumns] at h
    cases h
  | ok columns =>
    rw [hcolumns] at h
    cases h
    rfl

namespace Store

variable {database path target : String} {s : Store}

/-- A table may lie at the path: no slash stands at its end, and the directory around it is there,
unless a slash stands at the end of that. -/
structure HasPlace (s : Store) (path : String) : Prop where
  trimmed : Path.Trimmed path
  parent : Path.Trimmed (Path.parent path) → s.directories.contains (Path.parent path) = true

/-- Every table has a place in the database, and none has an index. -/
structure Housed (database : String) (s : Store) : Prop where
  root : s.database = database
  place : ∀ path, s.tables.contains path = true → s.HasPlace path
  indexes : ∀ path t, s.tables.get? path = some t → t.layout.indexes = []

theorem housed_new (hroot : Path.IsRoot database) : Housed database (.new database) where
  root := hroot.trimmed.trimEnd_eq
  place path hpath := by cases hpath
  indexes path t ht := by cases ht

/-- What is listed in a directory is what it is the parent of. -/
theorem mem_listDirectory {entries : List Entry} (h : s.listDirectory path = .ok entries) {e : Entry} :
    e ∈ entries ↔
      (∃ d, s.directories.contains d = true ∧ d ≠ Path.trimEnd path ∧
        Path.parent d = Path.trimEnd path ∧ entry d .directory = e) ∨
      ∃ t, s.tables.contains t = true ∧ Path.parent t = Path.trimEnd path ∧ entry t .table = e := by
  unfold listDirectory at h
  dsimp only at h
  split at h
  · cases h
    simp only [List.mem_append, List.mem_map, List.mem_filter, Dict.mem_keys, isChildOf,
      Bool.and_eq_true, bne_iff_ne, beq_iff_eq, and_assoc]
  · cases h

theorem listDirectory_of_there (h : s.directories.contains (Path.trimEnd path) = true) :
    ∃ entries, s.listDirectory path = .ok entries := by
  simp [listDirectory, h]

theorem listDirectory_of_missing (h : s.directories.contains (Path.trimEnd path) = false) :
    s.listDirectory path = .error (notFound "list directory" (Path.trimEnd path)) := by
  simp [listDirectory, h]

/-- Where no table has indexes, only tables can be described. -/
theorem view?_eq (h : ∀ path t, s.tables.get? path = some t → t.layout.indexes = [])
    (path : String) :
    s.view? path = (s.tables.get? path).map fun t => (t.description, t.rows) := by
  unfold view?
  split
  · next heq => rw [heq]; rfl
  · next heq =>
    rw [heq, Option.map_none]
    split
    · cases hindexed : s.tables.get? (Path.parent (Path.parent path)) with
      | none => simp only [hindexed, Option.bind_none]
      | some t =>
        simp only [hindexed, Option.bind_some, TableLayout.index?, h _ t hindexed, List.find?_nil,
          Option.map_none]
    · rfl

/-- A directory of a namespace that was made is there. -/
theorem contains_makeDirectory (hroot : Path.IsRoot database) (hdatabase : s.database = database)
    (space : List String) {status : Status}
    (h : (s.makeDirectory (Path.below database space)).1 = .ok status) :
    (s.makeDirectory (Path.below database space)).2.directories.contains
      (Path.trimEnd (Path.below database space)) = true := by
  rw [contains_makeDirectory_iff]
  cases hthere : s.directories.contains (Path.trimEnd (Path.below database space)) with
  | true => exact .inl rfl
  | false =>
    have htable : s.tables.contains (Path.trimEnd (Path.below database space)) = false := by
      rw [← Bool.not_eq_true]
      intro htable
      simp [Store.makeDirectory, htable] at h
    refine .inr ⟨?_, ?_, .self⟩
    · simp [isTaken, htable, hthere]
    · rw [hdatabase]
      exact Path.inside_trimEnd_below hroot space

/-- A table of a name has a place if the directory of its namespace is there. -/
theorem hasPlace_path (hroot : Path.IsRoot database) {table : TableName} (hname : table.name ≠ "")
    (h : s.directories.contains (Path.trimEnd (Path.below database table.space)) = true) :
    s.HasPlace (table.path database) where
  trimmed := by
    rw [table.path_eq]
    exact Path.trimmed_child (Path.safe_ne_empty hname) (Path.slash_notMem_safe _)
  parent htrimmed := by
    rw [table.parent_path hroot hname] at htrimmed ⊢
    rwa [htrimmed.trimEnd_eq] at h

namespace Housed

theorem makeDirectory (h : s.Housed database) (path : String) :
    (s.makeDirectory path).2.Housed database := by
  refine ⟨(database_makeDirectory s path).trans h.root, ?_, ?_⟩
  · intro path' hpath
    rw [tables_makeDirectory] at hpath
    refine ⟨(h.place path' hpath).trimmed, ?_⟩
    intro htrimmed
    exact contains_makeDirectory_iff.mpr (.inl ((h.place path' hpath).parent htrimmed))
  · rw [tables_makeDirectory]
    exact h.indexes

/-- A directory is not removed from around a table. -/
theorem removeDirectory (h : s.Housed database) (path : String) :
    (s.removeDirectory path).2.Housed database := by
  by_cases hremovable : s.Removable (Path.trimEnd path)
  · rw [removeDirectory_of_removable hremovable]
    refine ⟨h.root, ?_, h.indexes⟩
    intro path' hpath
    refine ⟨(h.place path' hpath).trimmed, ?_⟩
    intro htrimmed
    -- A table of which the directory is the parent would have kept it.
    refine (Dict.contains_erase ..).mpr ⟨?_, (h.place path' hpath).parent htrimmed⟩
    exact hremovable.noTable path' hpath
  · obtain ⟨e, hkept⟩ := removeDirectory_of_not_removable hremovable
    rw [hkept]
    exact h

/-- A table without indexes is put where it has a place. -/
theorem insert (h : s.Housed database) (hplace : s.HasPlace path) {t : Table}
    (ht : t.layout.indexes = []) :
    Housed database { s with tables := s.tables.insert path t } where
  root := h.root
  place path' hpath := by
    rcases (Dict.contains_insert ..).mp hpath with rfl | hpath
    · exact ⟨hplace.trimmed, hplace.parent⟩
    · exact ⟨(h.place path' hpath).trimmed, (h.place path' hpath).parent⟩
  indexes path' t' ht' := by
    rw [Dict.get?_insert] at ht'
    split at ht'
    · cases ht'
      exact ht
    · exact h.indexes path' t' ht'

theorem erase (h : s.Housed database) (path : String) :
    Housed database { s with tables := s.tables.erase path } where
  root := h.root
  place path' hpath := by
    obtain ⟨-, hpath⟩ := (Dict.contains_erase ..).mp hpath
    exact ⟨(h.place path' hpath).trimmed, (h.place path' hpath).parent⟩
  indexes path' t ht := by
    rw [Dict.get?_erase] at ht
    split at ht
    · cases ht
    · exact h.indexes path' t ht

theorem createTable (h : s.Housed database) (hroot : Path.IsRoot database) {table : TableName}
    (hname : table.name ≠ "") {layout : TableLayout} (hlayout : layout.indexes = []) :
    (s.createTable (table.path database) layout).2.Housed database := by
  have hmade := h.makeDirectory (Path.below database table.space)
  unfold Store.createTable
  rw [table.parent_path hroot hname]
  split
  · exact h
  · split
    · next heq =>
      rw [heq] at hmade
      exact hmade
    · next heq =>
      -- The directory was made first, and stays also if the path is taken.
      have hthere := contains_makeDirectory hroot h.root table.space (congrArg Prod.fst heq)
      rw [heq] at hmade hthere
      split
      · exact hmade
      · exact hmade.insert (hasPlace_path hroot hname hthere) hlayout

theorem alterTable (h : s.Housed database) (path : String) (operations : List AlterOperation) :
    (s.alterTable path operations).2.Housed database := by
  unfold Store.alterTable
  split
  · exact h
  · next t ht =>
    refine h.insert (h.place path ?_) ?_
    · rw [Dict.contains, ht]
      rfl
    · rw [Table.indexes_alter]
      exact h.indexes path t ht

theorem renameTable (h : s.Housed database) (source : String) (hplace : s.HasPlace target) :
    (s.renameTable source target).2.Housed database := by
  unfold Store.renameTable
  split
  · exact h
  · split
    · exact h
    · next t ht =>
      exact (h.erase source).insert ⟨hplace.trimmed, hplace.parent⟩ (h.indexes source t ht)

theorem dropTable (h : s.Housed database) (path : String) :
    (s.dropTable path).2.Housed database := by
  unfold Store.dropTable
  split
  · exact h.erase path
  · exact h

end Housed
end Store

/-! ### Changes by a catalog -/

namespace Catalog

/-- A table that is made or moved has a name, and one that is moved comes to a namespace that can
be listed.  Nothing is asked of any other change. -/
def Change.Placed (c : Catalog) (s : Store) : Change → Prop
  | .createTable table .. => table.name ≠ ""
  | .renameTable _ target =>
    target.name ≠ "" ∧ ∃ names, c.listTables s target.space = .ok names
  | _ => True

/-- The stores that a connected catalog leads to from one without tables. -/
inductive Reached (c : Catalog) : Store → Prop
  | new {link : CatalogLink} (h : c.link = some link) : Reached c (.new link.connector.database)
  | change {s : Store} {change : Change} (h : Reached c s) (hplaced : change.Placed c s) :
    Reached c (c.apply s change)

variable {c : Catalog} {link : CatalogLink} {s : Store}

/-! ### Reading -/

theorem isIndex_ofIndex (space : List String) (table index : String) :
    (TableName.ofIndex space table index).isIndex = true := by
  rw [TableName.isIndex, Option.isSome_iff_exists]
  refine ⟨(table ++ "/" ++ index).toList, Text.after?_eq_some_iff.mpr ?_⟩
  simp [TableName.ofIndex, List.append_assoc]

theorem isIndex_of_mem_indexNames {path : String} {table name : TableName}
    (h : name ∈ indexNames s path table) : name.isIndex = true := by
  unfold indexNames at h
  split at h
  · obtain ⟨index, -, rfl⟩ := List.mem_map.mp h
    exact isIndex_ofIndex ..
  · cases h

/-- Of the tables of a directory each is listed under its name, beside indexes. -/
theorem listTables_of_ok (hlink : c.link = some link) {space : List String} {entries : List Entry}
    (h : s.listDirectory (Path.below link.connector.database space) = .ok entries) :
    ∃ names, c.listTables s space = .ok names ∧
      ∀ table : TableName, table.isIndex = false → (table ∈ names ↔
        table.space = space ∧ ∃ e ∈ entries, e.kind.isTable = true ∧ e.name = table.name) := by
  rw [listTables, directory_eq hlink, link?, hlink]
  simp only [bind, Except.bind, h, Except.mapError, pure, Except.pure]
  refine ⟨_, rfl, fun table hindex => ?_⟩
  simp only [List.mem_flatMap, List.mem_filter, List.mem_cons]
  constructor
  · rintro ⟨e, ⟨he, hkind⟩, rfl | hlisted⟩
    · exact ⟨rfl, e, he, hkind, rfl⟩
    · split at hlisted
      · cases hindex.symm.trans (isIndex_of_mem_indexNames hlisted)
      · cases hlisted
  · rintro ⟨rfl, e, he, hkind, hname⟩
    exact ⟨e, ⟨he, hkind⟩, .inl (by rw [hname])⟩

/-- A namespace can be listed if its directory is there, and only then.  The tables listed are
those of which the directory is the parent. -/
theorem listTables_cases (hlink : c.link = some link) (s : Store) (space : List String) :
    (s.directories.contains (Path.trimEnd (Path.below link.connector.database space)) = true ∧
      ∃ names, c.listTables s space = .ok names ∧
        ∀ table : TableName, table.isIndex = false → (table ∈ names ↔
          table.space = space ∧ ∃ path, s.tables.contains path = true ∧
            Path.parent path = Path.trimEnd (Path.below link.connector.database space) ∧
            Path.base path = table.name)) ∨
    s.directories.contains (Path.trimEnd (Path.below link.connector.database space)) = false ∧
      ∃ e, c.listTables s space = .error e := by
  cases hthere : s.directories.contains
      (Path.trimEnd (Path.below link.connector.database space)) with
  | true =>
    obtain ⟨entries, hentries⟩ := Store.listDirectory_of_there hthere
    obtain ⟨names, hnames, hmem⟩ := listTables_of_ok hlink hentries
    refine .inl ⟨rfl, names, hnames, ?_⟩
    intro table hindex
    rw [hmem table hindex, and_congr_right_iff]
    intro _
    constructor
    · rintro ⟨e, he, hkind, hname⟩
      rcases (Store.mem_listDirectory hentries).mp he with ⟨d, -, -, -, rfl⟩ | ⟨t, ht, hparent, rfl⟩
      · cases hkind
      · exact ⟨t, ht, hparent, hname⟩
    · rintro ⟨t, ht, hparent, hname⟩
      exact ⟨_, (Store.mem_listDirectory hentries).mpr (.inr ⟨t, ht, hparent, rfl⟩), rfl, hname⟩
  | false =>
    refine .inr ⟨rfl, namespaceError space (Store.notFound "list directory"
      (Path.trimEnd (Path.below link.connector.database space))), ?_⟩
    rw [listTables, directory_eq hlink, link?, hlink]
    simp only [bind, Except.bind, Store.listDirectory_of_missing hthere, Except.mapError]

/-- A table can be loaded if there is one at its path, and only then. -/
theorem tableExists_iff (hlink : c.link = some link) (h : s.Housed link.connector.database)
    {table : TableName} (hindex : table.isIndex = false) :
    c.tableExists s table = .ok true ↔
      s.tables.contains (table.path link.connector.database) = true := by
  unfold tableExists loadTable
  simp only [link?, hlink, hindex, bind, Except.bind, Bool.false_eq_true, if_false,
    CatalogTable.lookup, Store.describeTable, Store.view?_eq h.indexes, Dict.contains]
  cases s.tables.get? (table.path link.connector.database) with
  | none =>
    have herror : tableError table (Store.notFound "describe table"
        (table.path link.connector.database)) = .noSuchTable table := if_pos rfl
    simp [Except.map, Except.mapError, herror]
  | some t => simp [Except.map, Except.mapError]

/-! ### What a change keeps -/

section Changes

variable (hlink : c.link = some link)
include hlink

/-- A table of a name has a place in a namespace that can be listed. -/
theorem hasPlace_of_listTables {target : TableName} (hname : target.name ≠ "")
    (hlisted : ∃ names, c.listTables s target.space = .ok names) :
    s.HasPlace (target.path link.connector.database) := by
  obtain ⟨names, hnames⟩ := hlisted
  rcases listTables_cases hlink s target.space with ⟨hthere, -⟩ | ⟨-, e, herror⟩
  · exact Store.hasPlace_path (database_isRoot link) hname hthere
  · cases hnames.symm.trans herror

/-- **What a change keeps.**  Behind it every table has a place, if it has a name and its namespace
can be listed. -/
theorem housed_apply (h : s.Housed link.connector.database) {change : Change}
    (hplaced : change.Placed c s) : (c.apply s change).Housed link.connector.database := by
  rcases apply_asks hlink s change with hkept | ⟨call, hasks, hafter⟩
  · rw [hkept]
    exact h
  · rw [hafter]
    cases hasks with
    | createNamespace space => exact h.makeDirectory _
    | dropNamespace space recursive => exact h.removeDirectory _
    | createTable table hlayout =>
      exact h.createTable (database_isRoot link) hplaced (TableLayout.indexes_ofSchema hlayout)
    | alterTable table changes operations => exact h.alterTable _ _
    | renameTable source target =>
      exact h.renameTable _ (hasPlace_of_listTables hlink hplaced.1 hplaced.2)
    | dropTable table => exact h.dropTable _

end Changes

/-- In every store that is reached each table has a place. -/
theorem Reached.housed (h : c.Reached s) :
    ∃ link, c.link = some link ∧ s.Housed link.connector.database := by
  induction h with
  | new hlink => exact ⟨_, hlink, Store.housed_new (database_isRoot _)⟩
  | change _ hplaced ih =>
    obtain ⟨link, hlink, hhoused⟩ := ih
    exact ⟨link, hlink, housed_apply hlink hhoused hplaced⟩

end Catalog

/-- **Listing agrees with loading**, in every store that changes by a catalog lead to as long as
each table is made and moved under a name, and moved to a namespace that can be listed.  There is
a table of a name when the listing of its namespace succeeds and contains the name, and only
then. -/
theorem listing_agrees_with_loading (c : Catalog) (s : Store) (table : TableName)
    (h : c.Reached s) (hparts : ∀ part ∈ table.space ++ [table.name], Path.IsPart part) :
    c.tableExists s table = .ok true ↔
      ∃ names, c.listTables s table.space = .ok names ∧ table ∈ names := by
  obtain ⟨link, hlink, hhoused⟩ := h.housed
  have hroot := Catalog.database_isRoot link
  have hname : Path.IsPart table.name := hparts _ (List.mem_append_right _ List.mem_cons_self)
  have hindex := TableName.isIndex_of_isPart hname
  have hspace : "" ∉ table.space :=
    fun hempty => (hparts "" (List.mem_append_left _ hempty)).nonempty rfl
  have htrimmed := Path.trimmed_below hroot hspace
  have hcases := Catalog.listTables_cases hlink s table.space
  rw [htrimmed.trimEnd_eq] at hcases
  rw [Catalog.tableExists_iff hlink hhoused hindex]
  constructor
  · -- The directory of the namespace is the parent of the path, and it is there.
    intro hthere
    have hparent := table.parent_path hroot hname.nonempty
    have hdirectory := (hhoused.place _ hthere).parent (by rwa [hparent])
    rw [hparent] at hdirectory
    rcases hcases with ⟨-, names, hnames, hmem⟩ | ⟨hmissing, -⟩
    · refine ⟨names, hnames, (hmem table hindex).mpr ⟨rfl, _, hthere, hparent, ?_⟩⟩
      rw [table.base_path hname.nonempty, hname.safe_eq]
    · cases hdirectory.symm.trans hmissing
  · rintro ⟨names, hnames, hlisted⟩
    rcases hcases with ⟨-, names', hnames', hmem⟩ | ⟨-, e, herror⟩
    · -- What is listed has a path of which the name is the last part, and there is only one.
      cases hnames.symm.trans hnames'
      obtain ⟨-, path, hpath, hparent, hbase⟩ := (hmem table hindex).mp hlisted
      have hpath' := Path.eq_child_of_parent (hhoused.place path hpath).trimmed hparent
        (Path.below_ne_root hroot _)
      rwa [table.path_eq, hname.safe_eq, ← hbase, ← hpath']
    · cases hnames.symm.trans herror

namespace Catalog

/-- A store with the albums in a namespace of their own. -/
def albumStore : Store :=
  archive.apply emptyStore (.createTable ⟨["jazz"], "albums"⟩ albumSchema .empty)

/-- The albums are moved out of the namespace, and it is dropped. -/
def movedStore : Store :=
  archive.apply (archive.apply albumStore (.renameTable ⟨["jazz"], "albums"⟩ ⟨[], "records"⟩))
    (.dropNamespace ["jazz"] false)

theorem reached_movedStore : archive.Reached movedStore := by
  have hempty : archive.Reached emptyStore := @Reached.new _ localLink rfl
  have hcreated : Change.Placed archive emptyStore
      (.createTable ⟨["jazz"], "albums"⟩ albumSchema .empty) := show "albums" ≠ "" by decide
  have hlisted : archive.listTables albumStore [] = .ok [] := by decide +kernel
  have hrenamed : Change.Placed archive albumStore
      (.renameTable ⟨["jazz"], "albums"⟩ ⟨[], "records"⟩) :=
    ⟨show "records" ≠ "" by decide, [], hlisted⟩
  exact ((hempty.change hcreated).change hrenamed).change trivial

end Catalog

/-- The albums are listed under their new name, and nothing can be listed in the namespace that was
dropped. -/
theorem listing_agrees_with_loading_records :
    (∃ names, Catalog.archive.listTables Catalog.movedStore [] = .ok names ∧
      (⟨[], "records"⟩ : TableName) ∈ names) ∧
    Catalog.archive.tableExists Catalog.movedStore ⟨["jazz"], "albums"⟩ ≠ .ok true := by
  have hrecords : ∀ part ∈ ["records"], Path.IsPart part :=
    List.forall_mem_singleton.mpr ⟨by decide, by decide, by decide⟩
  have halbums : ∀ part ∈ ["jazz", "albums"], Path.IsPart part :=
    List.forall_mem_cons.mpr ⟨⟨by decide, by decide, by decide⟩,
      List.forall_mem_singleton.mpr ⟨by decide, by decide, by decide⟩⟩
  constructor
  · refine (listing_agrees_with_loading _ _ ⟨[], "records"⟩ Catalog.reached_movedStore hrecords).mp ?_
    decide +kernel
  · rw [ne_eq, listing_agrees_with_loading _ _ ⟨["jazz"], "albums"⟩ Catalog.reached_movedStore halbums]
    rintro ⟨names, hnames, -⟩
    have hmissing : Catalog.archive.listTables Catalog.movedStore ["jazz"] =
        .error (.noSuchNamespace ["jazz"]) := by decide +kernel
    cases hnames.symm.trans hmissing

/-- A table that is moved to a namespace without a directory is there and cannot be listed; one
without a name is listed under that of its namespace, and is not there. -/
theorem moved_unlisted_and_unnamed_listed :
    let s := Catalog.archive.apply Catalog.emptyStore
      (.createTable ⟨[], "albums"⟩ Catalog.albumSchema .empty)
    let moved := Catalog.archive.apply s (.renameTable ⟨[], "albums"⟩ ⟨["jazz"], "albums"⟩)
    let unnamed := Catalog.archive.apply s (.createTable ⟨["jazz"], ""⟩ Catalog.albumSchema .empty)
    Catalog.archive.tableExists moved ⟨["jazz"], "albums"⟩ = .ok true ∧
      Catalog.archive.listTables moved ["jazz"] = .error (.noSuchNamespace ["jazz"]) ∧
      Catalog.archive.tableExists unnamed ⟨[], "jazz"⟩ = .ok false ∧
      Catalog.archive.listTables unnamed [] = .ok [⟨[], "albums"⟩, ⟨[], "jazz"⟩] := by
  decide +kernel

end ShardScan
