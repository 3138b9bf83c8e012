import ShardScan.Proofs.Store.Indexes

/-!
# The rows of an index

The rows of an index are not kept; whenever one is read they are made of the
rows of its table, each cut to the columns of the index's key, and sorted.  The
key goes on with the primary key, so rows of the table that differ in their keys
differ in the index too: each of them has an entry of its own, and sorting puts
the entries in a strict order.

An entry names its columns as the table does, also where the index names a
column twice, so cutting it to the key of the index leaves it as it is.

## Main definitions

* `Table.indexEntry` — what a row puts into an index.
* `Table.IndexTyped` — the values under the columns of an index are of the types of the columns.

## Main results

* `Table.indexKey_eq` — the key of an index, and what it takes from the primary key.
* `Table.perm_indexView`, `Table.pairwise_indexView` — the rows of an index, and their order.
* `Table.selectRows_indexView` — what a request for all columns of an index selects.
* `Store.ordered_of_history`, `Store.primaryKey_ne_nil_of_history` — what holds of every table.
-/

namespace ShardScan

/-! ### Lists cut to what there is -/

section FilterMap

variable {α β γ : Type} {f : α → Option β} {g : α → Option γ} {l : List α}

/-- Lists of which nothing is left out are related item by item. -/
theorem forall₂_filterMap_filterMap_iff {R : β → γ → Prop} (hf : ∀ a ∈ l, (f a).isSome)
    (hg : ∀ a ∈ l, (g a).isSome) :
    List.Forall₂ R (l.filterMap f) (l.filterMap g) ↔ ∀ a ∈ l, ∀ b ∈ f a, ∀ c ∈ g a, R b c := by
  induction l with
  | nil => exact ⟨fun _ => nofun, fun _ => .nil⟩
  | cons a l ih =>
    obtain ⟨hfa, hfl⟩ := List.forall_mem_cons.mp hf
    obtain ⟨hga, hgl⟩ := List.forall_mem_cons.mp hg
    obtain ⟨b, hb⟩ := Option.isSome_iff_exists.mp hfa
    obtain ⟨c, hc⟩ := Option.isSome_iff_exists.mp hga
    rw [List.filterMap_cons_some hb, List.filterMap_cons_some hc, List.forall₂_cons, ih hfl hgl,
      List.forall_mem_cons, hb, hc]
    simp

theorem filterMap_eq_filterMap_iff {f' : α → Option β} (hf : ∀ a ∈ l, (f a).isSome)
    (hf' : ∀ a ∈ l, (f' a).isSome) : l.filterMap f = l.filterMap f' ↔ ∀ a ∈ l, f a = f' a := by
  constructor
  · intro heq a ha
    have hforall := (forall₂_filterMap_filterMap_iff (R := Eq) hf hf').mp
      (by rw [heq]; exact List.forall₂_refl _)
    obtain ⟨b, hb⟩ := Option.isSome_iff_exists.mp (hf a ha)
    obtain ⟨c, hc⟩ := Option.isSome_iff_exists.mp (hf' a ha)
    rw [hb, hc, hforall a ha b hb c hc]
  · exact List.filterMap_congr

end FilterMap

/-- A row cut to the columns of a key has its values under them. -/
theorem Tuple.pick_keyPositions (row : Tuple) (columns : List Column) (key : List String) :
    row.pick (keyPositions columns key) = key.filterMap (row.under? columns) := by
  rw [keyPositions, pick, List.map_filterMap]
  rfl

/-- Values put under the columns of their names, of which one may occur twice, are found there. -/
theorem Tuple.under?_filterMap {layout : TableLayout} {key : List String} {f : String → Option Value}
    (hcolumns : ∀ name ∈ key, (layout.column? name).isSome) (hf : ∀ name ∈ key, (f name).isSome)
    {name : String} (hname : name ∈ key) :
    under? (key.filterMap f) (key.filterMap layout.column?) name = f name := by
  induction key with
  | nil => cases hname
  | cons first key ih =>
    obtain ⟨hfirst, hcolumns⟩ := List.forall_mem_cons.mp hcolumns
    obtain ⟨hvalue, hf⟩ := List.forall_mem_cons.mp hf
    obtain ⟨c, hc⟩ := Option.isSome_iff_exists.mp hfirst
    obtain ⟨v, hv⟩ := Option.isSome_iff_exists.mp hvalue
    rw [List.filterMap_cons_some hc, List.filterMap_cons_some hv, under?_cons,
      TableLayout.name_of_column? hc]
    split
    · next heq =>
      rw [← heq, hv]
      rfl
    · next hne => exact ih hcolumns hf ((List.mem_cons.mp hname).resolve_left (Ne.symm hne))

namespace Table

variable {t : Table} {index : Index}

/-! ### The key of an index -/

theorem foldl_completion_eq (key names : List String) :
    ∃ rest, names.foldl (fun key n => if key.contains n then key else key ++ [n]) key = key ++ rest ∧
      rest.Sublist names ∧ rest.Nodup ∧ ∀ name ∈ rest, name ∉ key := by
  induction names generalizing key with
  | nil => exact ⟨[], (List.append_nil key).symm, .slnil, .nil, nofun⟩
  | cons n names ih =>
    rw [List.foldl_cons]
    by_cases hn : key.contains n = true
    · obtain ⟨rest, heq, hsublist, hnodup, hnew⟩ := ih key
      rw [if_pos hn]
      exact ⟨rest, heq, hsublist.cons n, hnodup, hnew⟩
    · obtain ⟨rest, heq, hsublist, hnodup, hnew⟩ := ih (key ++ [n])
      rw [if_neg hn, heq]
      refine ⟨n :: rest, by simp, hsublist.cons_cons n, List.nodup_cons.mpr ⟨?_, hnodup⟩, ?_⟩
      · exact fun hmem => hnew n hmem (List.mem_append_right key List.mem_cons_self)
      · intro name hname hkey
        rcases List.mem_cons.mp hname with rfl | hname
        · exact hn (List.contains_iff_mem.mpr hkey)
        · exact hnew name hname (List.mem_append_left [n] hkey)

/-- **The key of an index** has its columns and then, in their order and each once, those columns of
the primary key that are not among them. -/
theorem indexKey_eq (t : Table) (index : Index) :
    ∃ rest, t.indexKey index = index.columns ++ rest ∧ rest.Sublist t.layout.primaryKey ∧
      rest.Nodup ∧ ∀ name, name ∈ rest ↔ name ∈ t.layout.primaryKey ∧ name ∉ index.columns := by
  obtain ⟨rest, heq, hsublist, hnodup, hnew⟩ := foldl_completion_eq index.columns t.layout.primaryKey
  refine ⟨rest, heq, hsublist, hnodup, fun name => ⟨fun hname => ?_, fun ⟨hkey, hcolumn⟩ => ?_⟩⟩
  · exact ⟨hsublist.mem hname, hnew name hname⟩
  · have hmem : name ∈ index.columns ++ rest := heq ▸ mem_indexKey.mpr (.inr hkey)
    exact (List.mem_append.mp hmem).resolve_left hcolumn

/-- The key of an index is described when its columns are. -/
theorem isSome_column?_indexKey (ht : t.layout.KeyDescribed)
    (hcolumns : ∀ name ∈ index.columns, ∃ c ∈ t.layout.columns, c.name = name) :
    ∀ name ∈ t.indexKey index, (t.layout.column? name).isSome := by
  intro name hname
  rw [TableLayout.isSome_column?]
  exact (mem_indexKey.mp hname).elim (hcolumns name) (ht name)

theorem isSome_under?_indexKey (ht : t.layout.KeyDescribed)
    (hcolumns : ∀ name ∈ index.columns, ∃ c ∈ t.layout.columns, c.name = name) (row : Tuple) :
    ∀ name ∈ t.indexKey index, (row.under? t.layout.columns name).isSome := by
  intro name hname
  rw [Tuple.isSome_under?, ← TableLayout.isSome_column?]
  exact isSome_column?_indexKey ht hcolumns name hname

/-! ### Entries -/

/-- What a row puts into an index: its values under the columns of the index's key. -/
def indexEntry (t : Table) (index : Index) (row : Tuple) : Tuple :=
  (t.indexKey index).filterMap (row.under? t.layout.columns)

/-- The values under the columns of an index are NULL or of the types of the columns, and these are
no floating-point types. -/
def IndexTyped (t : Table) (index : Index) : Prop :=
  ∀ row ∈ t.rows, ∀ name ∈ index.columns, ∀ c ∈ t.layout.column? name,
    ∀ v ∈ row.under? t.layout.columns name, c.type.AdmitsKey v

/-- The rows of an index are the entries of the rows, sorted. -/
theorem rows_indexView (t : Table) (index : Index) : (t.indexView index).2 =
    sortAscending (fun a b => compareKeys a b = .lt) (t.rows.map (t.indexEntry index)) := by
  rw [indexView]
  dsimp only
  congr 1
  exact List.map_congr_left fun row _ => row.pick_keyPositions _ _

/-- **Each row has one entry** in an index. -/
theorem perm_indexView (t : Table) (index : Index) :
    (t.indexView index).2.Perm (t.rows.map (t.indexEntry index)) := by
  rw [rows_indexView]
  exact perm_sortAscending ..

/-- The types of the key of an index. -/
def indexTypes (t : Table) (index : Index) : List StoreType :=
  (t.indexKey index).filterMap fun name => (t.layout.column? name).map (·.type)

section Ordered

variable (ht : t.Ordered)
  (hcolumns : ∀ name ∈ index.columns, ∃ c ∈ t.layout.columns, c.name = name)

include ht hcolumns

/-- An entry is a whole key of the index. -/
theorem isKey_indexEntry (htyped : t.IndexTyped index) {row : Tuple} (hrow : row ∈ t.rows) :
    (t.indexEntry index row).IsKey (t.indexTypes index) := by
  have hsome : ∀ key : List String, (∀ name ∈ key, (t.layout.column? name).isSome) →
      ∀ name ∈ key, ((t.layout.column? name).map (·.type)).isSome := by
    intro key hkey name hname
    rw [Option.isSome_map]
    exact hkey name hname
  have hprimary := ht.keys row hrow
  rw [key_eq_filterMap, Tuple.IsKey, TableLayout.keyTypes, forall₂_filterMap_filterMap_iff
    (hsome _ fun name hname => TableLayout.isSome_column?.mpr (ht.described name hname))
    (fun name hname => Tuple.isSome_under?.mpr (ht.described name hname))] at hprimary
  rw [indexEntry, Tuple.IsKey, indexTypes, forall₂_filterMap_filterMap_iff
    (hsome _ (isSome_column?_indexKey ht.described hcolumns))
    (isSome_under?_indexKey ht.described hcolumns row)]
  intro name hname type htype v hv
  rcases mem_indexKey.mp hname with hcolumn | hkey
  · obtain ⟨c, hc, rfl⟩ := Option.mem_map.mp htype
    exact htyped row hrow name hcolumn c hc v hv
  · exact hprimary name hkey type htype v hv

/-- Rows of different keys have different entries: the entry has the key of the row in it. -/
theorem ranks_indexEntry_ne {a b : Tuple} (ha : a ∈ t.rows) (hb : b ∈ t.rows)
    (hlt : compareKeys (t.key a) (t.key b) = .lt) :
    (t.indexEntry index a).ranks ≠ (t.indexEntry index b).ranks := by
  have hranks : ∀ (key : List String) (row : Tuple),
      Tuple.ranks (key.filterMap (row.under? t.layout.columns)) =
        key.filterMap fun name => (row.under? t.layout.columns name).map Value.rank :=
    fun key row => List.map_filterMap
  have hsome : ∀ row : Tuple, ∀ name ∈ t.indexKey index,
      ((row.under? t.layout.columns name).map Value.rank).isSome := by
    intro row name hname
    rw [Option.isSome_map]
    exact isSome_under?_indexKey ht.described hcolumns row name hname
  intro heq
  rw [indexEntry, indexEntry, hranks, hranks, filterMap_eq_filterMap_iff (hsome a) (hsome b)] at heq
  have hkeys : (t.key a).ranks = (t.key b).ranks := by
    rw [key_eq_filterMap, key_eq_filterMap, hranks, hranks]
    exact List.filterMap_congr fun name hname => heq name (mem_indexKey.mpr (.inr hname))
  rw [compareKeys_eq_of_isKey (ht.keys a ha) (ht.keys b hb), hkeys, Std.ReflOrd.compare_self] at hlt
  cases hlt

/-- **The rows of an index ascend strictly.** -/
theorem pairwise_indexView (htyped : t.IndexTyped index) :
    (t.indexView index).2.Pairwise fun a b => compareKeys a b = .lt := by
  let entries := t.rows.map (t.indexEntry index)
  have hkeys : ∀ e ∈ entries, Tuple.IsKey e (t.indexTypes index) := by
    intro e he
    obtain ⟨row, hrow, rfl⟩ := List.mem_map.mp he
    exact isKey_indexEntry ht hcolumns htyped hrow
  have hcompare : ∀ a ∈ entries, ∀ b ∈ entries,
      compareKeys a b = compare (Tuple.ranks a) (Tuple.ranks b) :=
    fun a ha b hb => compareKeys_eq_of_isKey (hkeys a ha) (hkeys b hb)
  have hsorted : (t.indexView index).2.Pairwise fun a b =>
      (compare (Tuple.ranks a) (Tuple.ranks b)).isLE := by
    rw [rows_indexView]
    refine pairwise_sortAscending ?_
    intro a ha b hb
    refine respects_of_iff ?_
    rw [decide_eq_true_iff, hcompare a ha b hb]
  have hdistinct : (t.indexView index).2.Pairwise fun a b => Tuple.ranks a ≠ Tuple.ranks b := by
    refine (t.perm_indexView index).symm.pairwise ?_ (fun h => Ne.symm h)
    refine List.pairwise_map.mpr (ht.ascend.imp_of_mem ?_)
    intro a b ha hb hlt
    exact ranks_indexEntry_ne ht hcolumns ha hb hlt
  refine (hsorted.and hdistinct).imp_of_mem ?_
  rintro a b ha hb ⟨hle, hne⟩
  have hmem : ∀ e ∈ (t.indexView index).2, e ∈ entries := fun e =>
    (t.perm_indexView index).mem_iff.mp
  rw [hcompare a (hmem a ha) b (hmem b hb)]
  cases horder : compare (Tuple.ranks a) (Tuple.ranks b) with
  | lt => rfl
  | eq => exact absurd (Std.LawfulEqOrd.eq_of_compare horder) hne
  | gt =>
    rw [horder] at hle
    cases hle

end Ordered

/-! ### Requests for all columns -/

section Requests

variable (ht : t.layout.KeyDescribed)
  (hcolumns : ∀ name ∈ index.columns, ∃ c ∈ t.layout.columns, c.name = name)

include ht hcolumns

/-- An index has the columns of its key. -/
theorem names_indexView : (t.indexView index).1.columns.map (·.name) = t.indexKey index := by
  have hnames : (t.indexView index).1.columns.map (·.name) =
      (t.indexKey index).filterMap fun name => (t.layout.column? name).map (·.name) :=
    List.map_filterMap
  rw [hnames, ← List.filterMap_some (l := t.indexKey index), List.filterMap_filterMap]
  refine List.filterMap_congr ?_
  intro name hname
  obtain ⟨c, hc⟩ := Option.isSome_iff_exists.mp (isSome_column?_indexKey ht hcolumns name hname)
  simp [hc, TableLayout.name_of_column? hc]

/-- Cut to the columns of the key an entry is what it was. -/
theorem filterMap_under?_indexEntry (row : Tuple) :
    (t.indexKey index).filterMap
      ((t.indexEntry index row).under? (t.indexView index).1.columns) = t.indexEntry index row := by
  refine List.filterMap_congr ?_
  intro name hname
  exact Tuple.under?_filterMap (isSome_column?_indexKey ht hcolumns)
    (isSome_under?_indexKey ht hcolumns row) hname

/-- **A request for all columns of an index** selects its rows in the range of the request. -/
theorem selectRows_indexView {request : ReadRequest} (hlimit : request.rowLimit = none)
    {positions : List Nat} (hpositions : ∀ row : Tuple, row.pick positions =
      (t.indexKey index).filterMap (row.under? (t.indexView index).1.columns)) :
    Store.selectRows (t.indexView index).1 (t.indexView index).2 request positions =
      (t.indexView index).2.filter (request.range.contains ·) := by
  have hentry : ∀ e ∈ (t.indexView index).2, (t.indexKey index).filterMap
      (Tuple.under? e (t.indexView index).1.columns) = e := by
    intro e he
    obtain ⟨row, -, rfl⟩ := List.mem_map.mp ((t.perm_indexView index).mem_iff.mp he)
    exact filterMap_under?_indexEntry ht hcolumns row
  rw [Store.selectRows, hlimit]
  dsimp only
  have hadmitted : ((t.indexView index).2.filter fun row => request.range.contains
      (row.pick (ShardScan.keyPositions (t.indexView index).1.columns (t.indexView index).1.primaryKey))) =
      (t.indexView index).2.filter (request.range.contains ·) := by
    refine List.filter_congr ?_
    intro e he
    rw [Tuple.pick_keyPositions]
    exact congrArg request.range.contains (hentry e he)
  rw [hadmitted]
  conv_rhs => rw [← List.map_id ((t.indexView index).2.filter (request.range.contains ·))]
  refine List.map_congr_left ?_
  intro e he
  rw [hpositions, hentry e (List.mem_filter.mp he).1, id]

end Requests

end Table

/-! ### Histories -/

namespace Store

variable {s : Store} {path database : String} {t : Table}

/-- The rows that a call takes in have whole keys; nothing is asked of any other call. -/
def SchemeCall.Keyed (s : Store) : SchemeCall → Prop
  | .table call => call.Keyed s
  | _ => True

/-- In every history of such calls the rows of tables are in order. -/
theorem ordered_of_history (h : History after (fun s c => c.Keyed s) database s)
    (ht : s.tables.get? path = some t) : t.Ordered := by
  refine table_of_history ?_ ?_ ?_ ?_ h path t ht
  · intro path layout hfault
    exact Table.ordered_empty hfault
  · intro s path t rows hkeyed ht hordered
    exact hordered.insertRows (hkeyed t ht)
  · intro s path t operations _ _ hordered
    exact hordered.alter operations
  · intro t points hordered
    exact hordered.split points

/-- In every history tables have a key. -/
theorem primaryKey_ne_nil_of_history {allowed : Store → SchemeCall → Prop}
    (h : History after allowed database s) (ht : s.tables.get? path = some t) :
    t.layout.primaryKey ≠ [] := by
  refine (layout_of_history (P := fun layout => layout.primaryKey ≠ [] ∧ layout.KeyDescribed)
    ?_ ?_ h path t ht).1
  · intro path layout hfault
    obtain ⟨hkey, hdescribed, -⟩ := TableLayout.layoutFault?_eq_none_iff.mp hfault
    exact ⟨hkey, hdescribed⟩
  · rintro s path t operations - - ⟨hkey, hdescribed⟩
    obtain ⟨move, hcarried, -⟩ := Table.carried_alter hdescribed operations
    exact ⟨hcarried.key.symm ▸ hkey, hcarried.described hdescribed⟩

end Store
end ShardScan
