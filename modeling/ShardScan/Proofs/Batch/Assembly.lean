import ShardScan.Batch.Basic
import ShardScan.Proofs.Outcome

/-!
# What a record batch holds

A batch has its rows as columns.  Read back row by row, it holds the rows that it
was put together from, each value in the form in which its column holds it.

## Main definitions

* `Schema.hold?` — a row in the form in which a batch holds it.
* `RecordBatch.rows` — the rows of a batch, read back.

## Main results

* `Field.getElem?_cells` — the cell of a value in a column.
* `RecordBatch.rows_ofRows` — a batch holds the rows it is put together from.
-/

namespace ShardScan

/-- A row in the form in which a batch of the schema holds it: each value as a cell of its
column. -/
def Schema.hold? (schema : Schema) (row : List Scalar) : Option (List Scalar) :=
  (schema.fields.zip row).mapM fun p => p.1.type.hold? p.2

/-! ### Columns -/

namespace Field

variable {f : Field} {values cells : List Scalar} {v : Scalar} {i : Nat}

theorem cells_cons_eq_ok (h : f.cells (v :: values) = .ok cells) :
    ∃ cell rest, cells = cell :: rest ∧ f.type.hold? v = some cell ∧ f.cells values = .ok rest := by
  rw [Field.cells] at h
  cases hcell : f.type.hold? v with
  | none =>
    rw [hcell] at h
    cases h
  | some cell =>
    rw [hcell] at h
    obtain ⟨rest, hrest, hcells⟩ := Except.exists_of_map_eq_ok h
    exact ⟨cell, rest, hcells.symm, rfl, hrest⟩

/-- **The cell of a value** has the form in which the column holds it. -/
theorem getElem?_cells (h : f.cells values = .ok cells) (hv : values[i]? = some v) :
    ∃ cell, f.type.hold? v = some cell ∧ cells[i]? = some cell := by
  induction values generalizing cells i with
  | nil => cases hv
  | cons first values ih =>
    obtain ⟨cell, rest, rfl, hcell, hrest⟩ := cells_cons_eq_ok h
    cases i with
    | zero =>
      cases hv
      exact ⟨cell, hcell, rfl⟩
    | succ i =>
      have hcell := ih hrest hv
      exact hcell

theorem column_eq_ok {c : BatchColumn} (h : f.column values = .ok c) :
    ∃ cells, f.cells values = .ok cells ∧ c = ⟨f.type, cells⟩ := by
  unfold column at h
  split at h
  · split at h
    · cases h
    · obtain ⟨cells, hcells, hc⟩ := Except.exists_of_map_eq_ok h
      exact ⟨cells, hcells, hc.symm⟩
  · cases h

end Field

namespace RecordBatch

/-- A row of the batch, read back. -/
def row (b : RecordBatch) (i : Nat) : List Scalar := b.columns.map fun c => c.cells.getD i .null

/-- The rows of the batch, read back. -/
def rows (b : RecordBatch) : List (List Scalar) := (List.range b.rowCount).map b.row

variable {schema : Schema} {rows : List (List Scalar)} {b : RecordBatch}

theorem columnsOf_cons_eq_ok {f : Field} {fields : List Field} {columns : List BatchColumn}
    (h : columnsOf (f :: fields) rows = .ok columns) :
    ∃ column rest, columns = column :: rest ∧
      f.column (rows.map fun row => row.headD .null) = .ok column ∧
      columnsOf fields (rows.map List.tail) = .ok rest := by
  rw [columnsOf] at h
  obtain ⟨column, hcolumn, h⟩ := Except.bind_eq_ok_iff.mp h
  obtain ⟨rest, hrest, h⟩ := Except.bind_eq_ok_iff.mp h
  cases h
  exact ⟨column, rest, rfl, hcolumn, hrest⟩

/-- The cells of a row that has a value for each of the fields. -/
theorem mapM_hold?_zip {fields : List Field} {columns : List BatchColumn} {row : List Scalar}
    {i : Nat} (h : columnsOf fields rows = .ok columns) (hrow : rows[i]? = some row)
    (hwidth : fields.length ≤ row.length) :
    ((fields.zip row).mapM fun p => p.1.type.hold? p.2) =
      some (columns.map fun c => c.cells.getD i .null) := by
  -- The first field takes the heads of the rows, and the other fields go on with the tails.
  induction fields generalizing rows columns row with
  | nil =>
    cases h
    rfl
  | cons f fields ih =>
    obtain ⟨column, rest, rfl, hcolumn, hrest⟩ := columnsOf_cons_eq_ok h
    obtain ⟨cells, hcells, rfl⟩ := Field.column_eq_ok hcolumn
    cases row with
    | nil => cases hwidth
    | cons v row =>
      have hv : (rows.map fun row => row.headD .null)[i]? = some v := by
        rw [List.getElem?_map, hrow]
        rfl
      have htail : (rows.map List.tail)[i]? = some row := by
        rw [List.getElem?_map, hrow]
        rfl
      obtain ⟨cell, hcell, hget⟩ := Field.getElem?_cells hcells hv
      rw [List.zip_cons_cons, List.mapM_cons, hcell, ih hrest htail (Nat.le_of_succ_le_succ hwidth),
        List.map_cons, List.getD_eq_getElem?_getD, hget]
      rfl

/-- What a batch is put together from. -/
theorem ofRows_eq_ok (h : ofRows schema rows = .ok b) :
    b.rowCount = rows.length ∧ columnsOf schema.fields rows = .ok b.columns ∧
      ∀ row ∈ rows, schema.fields.length ≤ row.length := by
  unfold ofRows at h
  dsimp only at h
  split at h
  · next hwidth =>
    cases h
    rw [List.eq_nil_of_length_eq_zero hwidth]
    exact ⟨rfl, rfl, fun _ _ => Nat.zero_le _⟩
  · split at h
    · cases h
    · next hwidths =>
      obtain ⟨columns, hcolumns, h⟩ := Except.bind_eq_ok_iff.mp h
      split at h
      · cases h
      · cases h
        refine ⟨rfl, hcolumns, fun row hrow => Nat.le_of_eq ?_⟩
        have hwidth := List.find?_eq_none.mp hwidths row hrow
        rw [bne_iff_ne, Classical.not_not] at hwidth
        exact hwidth.symm

/-- **A batch holds the rows it is put together from.** -/
theorem rows_ofRows (h : ofRows schema rows = .ok b) : b.rows.map some = rows.map schema.hold? := by
  obtain ⟨hcount, hcolumns, hwidth⟩ := ofRows_eq_ok h
  refine List.ext_getElem? fun i => ?_
  rw [List.getElem?_map, List.getElem?_map, RecordBatch.rows, List.getElem?_map, hcount]
  by_cases hi : i < rows.length
  · have hrow := List.getElem?_eq_getElem hi
    rw [List.getElem?_range hi, hrow, Option.map_some, Option.map_some, Option.map_some,
      Schema.hold?, mapM_hold?_zip hcolumns hrow (hwidth _ (List.getElem_mem hi))]
    rfl
  · rw [List.getElem?_eq_none (by simpa using hi), List.getElem?_eq_none (by simpa using hi)]
    rfl

end RecordBatch
end ShardScan
