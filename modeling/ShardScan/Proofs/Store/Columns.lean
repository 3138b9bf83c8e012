import Mathlib.Data.List.Basic
import ShardScan.Proofs.KeyRange.Bounds
import ShardScan.Store.Scheme

/-!
# Values under columns

A row has its values in the order of the columns, and the first column of a name
is the one that is meant.  A key is what a row has under the key columns; what
is done to other columns leaves it as it is.

## Main definitions

* `Tuple.under?` — the value of a row in the column of a name.
* `TableLayout.keyTypes` — the types of the key columns.
* `TableLayout.KeyDescribed`, `TableLayout.IndexesDescribed` — the columns of the key and of the
  indexes are among the columns.
* `TableLayout.KeyCarried` — from one layout to another keys and their types stay.
* `Table.Carried` — from one table to another keys, their types and the split points stay.
* `Table.Altered` — what a change that can be made makes of a table.

## Main results

* `TableLayout.layoutFault?_eq_none_iff` — the layouts that a table can be created with.
* `Table.key_eq_filterMap` — a key by the names of its columns.
* `TableLayout.carried_addColumn`, `TableLayout.carried_dropColumn` — what changes of columns keep.
* `Table.carried_alter`, `Table.column?_alter` — what any changes of a table keep.
-/

namespace ShardScan

/-! ### Rows -/

namespace Tuple

/-- The value of a row in the first column of a name. -/
def under? (row : Tuple) (columns : List Column) (name : String) : Option Value :=
  (columns.findIdx? fun c => c.name == name).map fun position => row[position]?.getD .null

theorem under?_cons (row : Tuple) (c : Column) (columns : List Column) (name : String) :
    row.under? (c :: columns) name =
      if c.name = name then some (row.head?.getD .null) else under? row.tail columns name := by
  by_cases hname : c.name = name
  · simp [under?, List.findIdx?_cons, hname, List.head?_eq_getElem?]
  · simp [under?, List.findIdx?_cons, hname, Function.comp_def]

theorem isSome_under? {row : Tuple} {columns : List Column} {name : String} :
    (row.under? columns name).isSome ↔ ∃ c ∈ columns, c.name = name := by
  rw [under?, Option.isSome_map, List.findIdx?_isSome, List.any_eq_true]
  simp

/-- A column behind the others does not hide one of them. -/
theorem under?_append {row : Tuple} {columns : List Column} {name : String} {c : Column}
    (hfound : ∃ d ∈ columns, d.name = name) (hwidth : row.length = columns.length) :
    under? (row ++ [.null]) (columns ++ [c]) name = row.under? columns name := by
  induction columns generalizing row with
  | nil =>
    obtain ⟨d, hd, -⟩ := hfound
    cases hd
  | cons d columns ih =>
    cases row with
    | nil => cases hwidth
    | cons v row =>
      rw [List.cons_append, List.cons_append, under?_cons, under?_cons]
      by_cases hname : d.name = name
      · rw [if_pos hname, if_pos hname]
        rfl
      · rw [if_neg hname, if_neg hname]
        obtain ⟨e, he, hename⟩ := hfound
        -- The column looked for is not the first.
        rcases List.mem_cons.mp he with rfl | he
        · exact absurd hename hname
        · exact ih ⟨e, he, hename⟩ (Nat.succ.inj hwidth)

/-- A column of another name can go. -/
theorem under?_eraseIdx {row : Tuple} {columns : List Column} {name : String} {position : Nat}
    {c : Column} (hposition : columns[position]? = some c) (hname : c.name ≠ name) :
    under? (row.eraseIdx position) (columns.eraseIdx position) name = row.under? columns name := by
  induction columns generalizing row position with
  | nil => cases hposition
  | cons d columns ih =>
    cases position with
    | zero =>
      cases hposition
      rw [under?_cons, if_neg hname, List.eraseIdx_cons_zero, List.eraseIdx_zero]
    | succ position =>
      rw [List.getElem?_cons_succ] at hposition
      rw [List.eraseIdx_cons_succ, under?_cons, under?_cons, ← ih hposition]
      cases row <;> rfl

end Tuple

/-! ### Layouts -/

namespace TableLayout

/-- The types of the key columns that are described. -/
def keyTypes (t : TableLayout) : List StoreType :=
  t.primaryKey.filterMap fun key => (t.column? key).map (·.type)

/-- The key columns are among the columns. -/
def KeyDescribed (t : TableLayout) : Prop :=
  ∀ name ∈ t.primaryKey, ∃ c ∈ t.columns, c.name = name

theorem isSome_column? {t : TableLayout} {name : String} :
    (t.column? name).isSome ↔ ∃ c ∈ t.columns, c.name = name := by
  rw [column?, List.find?_isSome]
  simp

theorem length_keyTypes {t : TableLayout} (h : t.KeyDescribed) :
    t.keyTypes.length = t.primaryKey.length := by
  rw [keyTypes, List.filterMap_length_eq_length]
  intro name hname
  rw [Option.isSome_map, isSome_column?]
  exact h name hname

/-- The columns of the indexes are among the columns. -/
def IndexesDescribed (t : TableLayout) : Prop :=
  ∀ index ∈ t.indexes, ∀ name ∈ index.columns, ∃ c ∈ t.columns, c.name = name

theorem find?_unknown_eq_none_iff {t : TableLayout} {names : List String} :
    names.find? (fun name => (t.column? name).isNone) = none ↔
      ∀ name ∈ names, ∃ c ∈ t.columns, c.name = name := by
  rw [List.find?_eq_none]
  refine forall₂_congr fun name _ => ?_
  rw [← isSome_column?, Bool.not_eq_true, Option.isNone_eq_false_iff]

/-- **The layouts of new tables**: there is a key, and key and indexes are made of columns. -/
theorem layoutFault?_eq_none_iff {t : TableLayout} {path : String} :
    Store.layoutFault? path t = none ↔
      t.primaryKey ≠ [] ∧ t.KeyDescribed ∧ t.IndexesDescribed := by
  rw [KeyDescribed, ← find?_unknown_eq_none_iff]
  unfold Store.layoutFault?
  dsimp only
  by_cases hkey : t.primaryKey = []
  · simp [hkey]
  · simp only [List.isEmpty_iff, hkey, if_false, ne_eq, not_false_eq_true, true_and]
    cases hunknown : t.primaryKey.find? fun name => (t.column? name).isNone with
    | some name => simp
    | none =>
      simp only [Option.map_eq_none_iff, List.findSome?_eq_none_iff, find?_unknown_eq_none_iff,
        true_and]
      rfl

/-- Rows of one layout have, as rows of another, the same keys of the same types. -/
structure KeyCarried (t t' : TableLayout) (move : Tuple → Tuple) : Prop where
  key : t'.primaryKey = t.primaryKey
  types : ∀ name ∈ t.primaryKey, t'.column? name = t.column? name
  values : ∀ name ∈ t.primaryKey, ∀ row : Tuple, row.length = t.columns.length →
    (move row).under? t'.columns name = row.under? t.columns name
  width : ∀ row : Tuple, row.length = t.columns.length → (move row).length = t'.columns.length

theorem KeyCarried.keyTypes_eq {t t' : TableLayout} {move : Tuple → Tuple}
    (h : t.KeyCarried t' move) : t'.keyTypes = t.keyTypes := by
  rw [keyTypes, keyTypes, h.key]
  refine List.filterMap_congr ?_
  intro name hname
  rw [h.types name hname]

theorem KeyCarried.described {t t' : TableLayout} {move : Tuple → Tuple}
    (h : t.KeyCarried t' move) (ht : t.KeyDescribed) : t'.KeyDescribed := by
  intro name hname
  rw [h.key] at hname
  rw [← isSome_column?, h.types name hname, isSome_column?]
  exact ht name hname

theorem find?_eraseIdx {columns : List Column} {name : String} {position : Nat} {c : Column}
    (hposition : columns[position]? = some c) (hname : c.name ≠ name) :
    (columns.eraseIdx position).find? (fun d => d.name == name) =
      columns.find? fun d => d.name == name := by
  induction columns generalizing position with
  | nil => cases hposition
  | cons d columns ih =>
    cases position with
    | zero =>
      cases hposition
      rw [List.eraseIdx_cons_zero, List.find?_cons_of_neg (by simpa using hname)]
    | succ position =>
      rw [List.getElem?_cons_succ] at hposition
      rw [List.eraseIdx_cons_succ, List.find?_cons, List.find?_cons, ih hposition]

/-- Rows can stay as they are where columns and key do. -/
theorem KeyCarried.of_eq {t t' : TableLayout} (hcolumns : t'.columns = t.columns)
    (hkey : t'.primaryKey = t.primaryKey) : t.KeyCarried t' id where
  key := hkey
  types name _ := by rw [column?, hcolumns, column?]
  values name _ row _ := by rw [hcolumns, id]
  width row hwidth := by rw [hcolumns, id, hwidth]

theorem KeyCarried.trans {t t' t'' : TableLayout} {move move' : Tuple → Tuple}
    (h : t.KeyCarried t' move) (h' : t'.KeyCarried t'' move') :
    t.KeyCarried t'' (move' ∘ move) where
  key := h'.key.trans h.key
  types name hname := (h'.types name (h.key ▸ hname)).trans (h.types name hname)
  values name hname row hwidth :=
    (h'.values name (h.key ▸ hname) _ (h.width row hwidth)).trans (h.values name hname row hwidth)
  width row hwidth := h'.width _ (h.width row hwidth)

/-- A further column keeps the keys. -/
theorem carried_addColumn {t : TableLayout} (ht : t.KeyDescribed) (c : Column) :
    t.KeyCarried { t with columns := t.columns ++ [c] } (· ++ [.null]) where
  key := rfl
  types name hname := by
    have hsome := isSome_column?.mpr (ht name hname)
    rw [column?, List.find?_append]
    exact Option.or_of_isSome hsome
  values name hname _ hwidth := Tuple.under?_append (ht name hname) hwidth
  width row hwidth := by simp [hwidth]

/-- So does the loss of a column that is not among them. -/
theorem carried_dropColumn {t : TableLayout} {position : Nat} {c : Column}
    (hposition : t.columns[position]? = some c) (hkey : c.name ∉ t.primaryKey) :
    t.KeyCarried { t with columns := t.columns.eraseIdx position } (·.eraseIdx position) where
  key := rfl
  types name hname := by
    refine find?_eraseIdx hposition ?_
    rintro rfl
    exact hkey hname
  values name hname row _ := by
    refine Tuple.under?_eraseIdx hposition ?_
    rintro rfl
    exact hkey hname
  width row hwidth := by
    obtain ⟨hlt, -⟩ := List.getElem?_eq_some_iff.mp hposition
    rw [List.length_eraseIdx_of_lt hlt, List.length_eraseIdx_of_lt (hwidth ▸ hlt), hwidth]

end TableLayout

/-! ### Keys -/

namespace Table

/-- A key is what a row has under the key columns. -/
theorem key_eq_filterMap (t : Table) (row : Tuple) :
    t.key row = t.layout.primaryKey.filterMap (row.under? t.layout.columns) := by
  rw [key, keyPositions, ShardScan.keyPositions, Tuple.pick, List.map_filterMap]
  rfl

theorem length_key {t : Table} (h : t.layout.KeyDescribed) (row : Tuple) :
    (t.key row).length = t.layout.keyTypes.length := by
  rw [TableLayout.length_keyTypes h, key_eq_filterMap, List.filterMap_length_eq_length]
  intro name hname
  exact Tuple.isSome_under?.mpr (h name hname)

end Table

/-- A row keeps its key where the layout carries it. -/
theorem TableLayout.KeyCarried.key_eq {t t' : Table} {move : Tuple → Tuple}
    (h : t.layout.KeyCarried t'.layout move) {row : Tuple}
    (hwidth : row.length = t.layout.columns.length) : t'.key (move row) = t.key row := by
  rw [Table.key_eq_filterMap, Table.key_eq_filterMap, h.key]
  refine List.filterMap_congr ?_
  intro name hname
  exact h.values name hname row hwidth

/-! ### Changes of a table -/

namespace Table

/-- The rows of a table are moved to a layout that carries their keys, and the points stay. -/
def Carried (t t' : Table) : Prop :=
  ∃ move, t.layout.KeyCarried t'.layout move ∧ t'.rows = t.rows.map move ∧
    t'.splitPoints = t.splitPoints

theorem Carried.refl (t : Table) : t.Carried t := ⟨id, .of_eq rfl rfl, (List.map_id _).symm, rfl⟩

theorem Carried.trans {t t' t'' : Table} (h : t.Carried t') (h' : t'.Carried t'') :
    t.Carried t'' := by
  obtain ⟨move, hcarried, hrows, hpoints⟩ := h
  obtain ⟨move', hcarried', hrows', hpoints'⟩ := h'
  exact ⟨move' ∘ move, hcarried.trans hcarried', by rw [hrows', hrows, List.map_map],
    hpoints'.trans hpoints⟩

/-- What a change that can be made makes of a table. -/
inductive Altered (t : Table) : AlterOperation → Table → Prop
  | added (column : Column) (hnew : t.layout.column? column.name = none) :
    Altered t (.addColumn column) { t with
      layout := { t.layout with columns := t.layout.columns ++ [column] }
      rows := t.rows.map (· ++ [.null]) }
  | dropped {position : Nat} {column : Column}
    (hposition : t.layout.columns[position]? = some column)
    (hkey : column.name ∉ t.layout.primaryKey) :
    Altered t (.dropColumn column.name) { t with
      layout := { t.layout with columns := t.layout.columns.eraseIdx position }
      rows := t.rows.map (·.eraseIdx position) }
  | set (key value : String) :
    Altered t (.setProperty key value)
      { t with layout := { t.layout with properties := t.layout.properties.insert key value } }
  | removed (key : String) :
    Altered t (.removeProperty key)
      { t with layout := { t.layout with properties := t.layout.properties.erase key } }

variable {t t' : Table} {operation : AlterOperation} {name : String}

theorem altered_of_alterOne (h : t.alterOne operation = .ok t') : t.Altered operation t' := by
  cases operation with
  | addColumn column =>
    rw [alterOne] at h
    split at h
    · cases h
    · next hnew =>
      cases h
      exact .added column (Option.isNone_iff_eq_none.mp (by simpa using hnew))
  | dropColumn name =>
    rw [alterOne] at h
    split at h
    · cases h
    · next hkey =>
      split at h
      · cases h
      · next position hfound =>
        cases h
        obtain ⟨hlt, hname, -⟩ := List.findIdx?_eq_some_iff_getElem.mp hfound
        have hkey' : name ∉ t.layout.primaryKey := by simpa using hkey
        obtain rfl := eq_of_beq hname
        exact .dropped (List.getElem?_eq_getElem hlt) hkey'
  | setProperty key value =>
    cases h
    exact .set key value
  | removeProperty key =>
    cases h
    exact .removed key

theorem Altered.carried (h : t.Altered operation t') (ht : t.layout.KeyDescribed) :
    t.Carried t' := by
  cases h with
  | added column => exact ⟨_, TableLayout.carried_addColumn ht column, rfl, rfl⟩
  | dropped hposition hkey => exact ⟨_, TableLayout.carried_dropColumn hposition hkey, rfl, rfl⟩
  | set | removed => exact ⟨id, .of_eq rfl rfl, (List.map_id _).symm, rfl⟩

theorem Altered.indexes_eq (h : t.Altered operation t') : t'.layout.indexes = t.layout.indexes := by
  cases h <;> rfl

/-- A column stays as it is when no column of its name is dropped. -/
theorem Altered.column?_eq (h : t.Altered operation t') (hkept : operation ≠ .dropColumn name)
    (hthere : (t.layout.column? name).isSome) : t'.layout.column? name = t.layout.column? name := by
  cases h with
  | added column =>
    rw [TableLayout.column?, List.find?_append]
    exact Option.or_of_isSome hthere
  | dropped hposition =>
    refine TableLayout.find?_eraseIdx hposition ?_
    rintro rfl
    exact hkept rfl
  | set | removed => rfl

/-- **Changes carry the keys**, also where the last of them cannot be made. -/
theorem carried_alter {t : Table} (h : t.layout.KeyDescribed) (operations : List AlterOperation) :
    t.Carried (t.alter operations).2 := by
  induction operations generalizing t with
  | nil => exact .refl t
  | cons operation operations ih =>
    unfold alter
    split
    · next t' halter =>
      have hone := (altered_of_alterOne halter).carried h
      obtain ⟨move, hcarried, -⟩ := id hone
      exact hone.trans (ih (hcarried.described h))
    · exact .refl t

/-- No change touches the indexes. -/
theorem indexes_alter (t : Table) (operations : List AlterOperation) :
    (t.alter operations).2.layout.indexes = t.layout.indexes := by
  induction operations generalizing t with
  | nil => rfl
  | cons operation operations ih =>
    unfold alter
    split
    · next t' halter => rw [ih, (altered_of_alterOne halter).indexes_eq]
    · rfl

/-- **A column stays** through changes that drop no column of its name. -/
theorem column?_alter {operations : List AlterOperation} (hkept : .dropColumn name ∉ operations)
    (hthere : (t.layout.column? name).isSome) :
    (t.alter operations).2.layout.column? name = t.layout.column? name := by
  induction operations generalizing t with
  | nil => rfl
  | cons operation operations ih =>
    rw [List.mem_cons, not_or] at hkept
    unfold alter
    split
    · next t' halter =>
      have hone := (altered_of_alterOne halter).column?_eq (Ne.symm hkept.1) hthere
      rw [← hone]
      exact ih hkept.2 (hone ▸ hthere)
    · rfl

end Table

end ShardScan
