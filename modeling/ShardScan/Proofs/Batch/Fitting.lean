import ShardScan.Proofs.Batch.Assembly

/-!
# Rows that fit a schema

Rows make a batch of a schema if they fit it: each has one value for each field,
the fields have types of which columns can be built, each value is NULL or one of
its column's kind, and no NULL stands where the field does not admit it.  Without
fields any rows make a batch.  Nothing else is asked, and what has been put into a
batch is found again at its row and column, a decimal with the precision and scale
of its column.

The fields take the values of the rows one after the other, so that a statement on
columns is proved by induction on the fields and holds of the tails of the rows
behind the first field.

## Main definitions

* `EngineType.variant` — a type as far as its values have to be of it.
* `EngineType.IsColumn` — the types of which columns can be built.
* `Scalar.payload` — a value as far as a column keeps it.
* `Schema.Fits` — the rows of which a batch can be put together.
* `RecordBatch.cell?` — the value of a batch at a row and a column.

## Main results

* `EngineType.hold?_isSome_iff` — the values that a column can hold.
* `RecordBatch.cell?_ofRows` — the cell of a value is the value as its column holds it.
* `record_batch_assembly` — **rows make a batch just when they fit, and are found in it again.**
-/

namespace ShardScan

/-! ### Types of columns -/

/-- There are decimals of a precision from 1 to 38 and a scale that is not above it. -/
theorem DecimalFault.of?_eq_none_iff {precision scale : Int} (h : 0 ≤ precision) :
    of? precision scale = none ↔ 1 ≤ precision ∧ precision ≤ 38 ∧ scale ≤ precision := by
  unfold of? maxDigits
  repeat' split
  all_goals
    simp
    omega

namespace EngineType

/-- The type without what a value of it does not settle: the precision and scale of a decimal, and
the zone of a timestamp. -/
def variant : EngineType → EngineType
  | decimal128 _ _ => decimal128 0 0
  | timestamp unit _ => timestamp unit none
  | t => t

/-- Columns of the type can be built.  There are values of its variant, and a decimal type has a
precision from 1 to 38 and a scale that is not above it. -/
structure IsColumn (t : EngineType) : Prop where
  inhabited : ∃ v : Scalar, v.type.variant = t.variant
  decimal : ∀ precision scale, t = .decimal128 precision scale →
    1 ≤ precision.val ∧ precision.val ≤ 38 ∧ scale.val ≤ precision.val

theorem isSupported_variant (t : EngineType) : t.variant.isSupported = t.isSupported := by
  cases t with
  | timestamp unit zone => cases unit <;> rfl
  | _ => rfl

theorem isSupported_type (v : Scalar) : v.type.isSupported = true := by
  cases v <;> rfl

/-- Columns are built of the types that values have. -/
theorem isSupported_iff {t : EngineType} :
    t.isSupported = true ↔ ∃ v : Scalar, v.type.variant = t.variant := by
  constructor
  · intro h
    cases t with
    | null => exact ⟨.null, rfl⟩
    | boolean => exact ⟨.boolean true, rfl⟩
    | int kind => exact ⟨.int kind 0, rfl⟩
    | float32 => exact ⟨.float32 (.ofInt .binary32 0), rfl⟩
    | float64 => exact ⟨.float64 (.ofInt .binary64 0), rfl⟩
    | date32 => exact ⟨.date 0, rfl⟩
    | decimal128 precision scale => exact ⟨.decimal 0 precision scale, rfl⟩
    | utf8 => exact ⟨.utf8 "", rfl⟩
    | binary => exact ⟨.binary [], rfl⟩
    | timestamp unit zone =>
      cases unit with
      | microsecond => exact ⟨.timestamp 0, rfl⟩
      | _ => cases h
    | duration unit =>
      cases unit with
      | microsecond => exact ⟨.duration 0, rfl⟩
      | _ => cases h
    | _ => cases h
  · rintro ⟨v, hv⟩
    rw [← isSupported_variant, ← hv, isSupported_variant, isSupported_type]

theorem fault?_eq_none_iff {t : EngineType} :
    t.fault? = none ↔ ∀ precision scale, t = .decimal128 precision scale →
      1 ≤ precision.val ∧ precision.val ≤ 38 ∧ scale.val ≤ precision.val := by
  cases t with
  | decimal128 precision scale =>
    rw [fault?, DecimalFault.of?_eq_none_iff precision.holds.1]
    constructor
    · rintro h _ _ ⟨⟩
      exact h
    · intro h
      exact h precision scale rfl
  | _ => simp [fault?]

theorem isColumn_iff {t : EngineType} :
    t.IsColumn ↔ t.isSupported = true ∧ t.fault? = none := by
  rw [isSupported_iff, fault?_eq_none_iff]
  exact ⟨fun h => ⟨h.inhabited, h.decimal⟩, fun h => ⟨h.1, h.2⟩⟩

end EngineType

/-! ### Values of columns -/

namespace Scalar

/-- The value without the precision and scale of a decimal, which a column has for all its values. -/
def payload : Scalar → Scalar
  | decimal unscaled _ _ => decimal unscaled 0 0
  | v => v

@[simp] theorem payload_null : null.payload = null := rfl

/-- NULL is nothing but itself. -/
theorem payload_eq_null_iff {v : Scalar} : v.payload = null ↔ v = null := by
  cases v <;> simp [payload]

end Scalar

namespace EngineType

variable {t : EngineType} {v cell : Scalar}

@[simp] theorem hold?_null (t : EngineType) : t.hold? .null = some .null := by
  cases t <;> rfl

/-- What a column holds is NULL, or a value of the column's kind. -/
theorem hold?_eq_some (ht : t ≠ .null) (h : t.hold? v = some cell) :
    cell.payload = v.payload ∧ (v = .null ∨ v.type.variant = t.variant) := by
  unfold hold? at h
  split at h
  case h_1 => exact absurd rfl ht
  case h_2 =>
    cases h
    exact ⟨rfl, .inl rfl⟩
  case h_4 =>
    split at h
    · next hkind =>
      cases h
      subst hkind
      exact ⟨rfl, .inr rfl⟩
    · cases h
  all_goals
    cases h
    try exact ⟨rfl, .inr rfl⟩

/-- A value of the column's kind is held. -/
theorem exists_hold?_eq_some (h : v.type.variant = t.variant) : ∃ cell, t.hold? v = some cell := by
  cases v with
  | null => exact ⟨.null, hold?_null t⟩
  | int kind n =>
    cases t <;> cases h
    exact ⟨.int kind n, by simp [hold?]⟩
  | _ =>
    cases t <;> cases h
    exact ⟨_, rfl⟩

/-- **The values that a column can hold** are NULL and those of its kind. -/
theorem hold?_isSome_iff (ht : t ≠ .null) :
    (t.hold? v).isSome ↔ v = .null ∨ v.type.variant = t.variant := by
  constructor
  · intro h
    obtain ⟨cell, hcell⟩ := Option.isSome_iff_exists.mp h
    exact (hold?_eq_some ht hcell).2
  · rintro (rfl | h)
    · rw [hold?_null]
      rfl
    · exact Option.isSome_iff_exists.mpr (exists_hold?_eq_some h)

end EngineType

/-! ### Columns -/

namespace BatchColumn

/-- A column without NULL among its cells counts none. -/
theorem nullCount_pos_iff {c : BatchColumn} : 0 < c.nullCount ↔ Scalar.null ∈ c.cells := by
  rw [nullCount, List.countP_pos_iff]
  constructor
  · rintro ⟨cell, hmem, hnull⟩
    cases cell with
    | null => exact hmem
    | _ => cases hnull
  · intro hmem
    exact ⟨.null, hmem, rfl⟩

end BatchColumn

namespace Field

variable {f : Field} {values : List Scalar} {c : BatchColumn}

theorem exists_cells_iff (ht : f.type ≠ .null) : (∃ cells, f.cells values = .ok cells) ↔
    ∀ v ∈ values, v = .null ∨ v.type.variant = f.type.variant := by
  induction values with
  | nil => simp [cells]
  | cons v values ih =>
    rw [List.forall_mem_cons, ← ih, ← EngineType.hold?_isSome_iff ht]
    constructor
    · rintro ⟨all, hall⟩
      obtain ⟨cell, rest, -, hcell, hrest⟩ := cells_cons_eq_ok hall
      exact ⟨Option.isSome_iff_exists.mpr ⟨cell, hcell⟩, rest, hrest⟩
    · rintro ⟨hcell, rest, hrest⟩
      obtain ⟨cell, hcell⟩ := Option.isSome_iff_exists.mp hcell
      exact ⟨cell :: rest, by simp [cells, hcell, hrest, Except.map]⟩

/-- **A column of some values** can be built if its type has columns and they are of its kind. -/
theorem exists_column_iff (ht : f.type ≠ .null) : (∃ c, f.column values = .ok c) ↔
    f.type.IsColumn ∧ ∀ v ∈ values, v = .null ∨ v.type.variant = f.type.variant := by
  rw [EngineType.isColumn_iff, ← exists_cells_iff ht, column]
  by_cases hsupported : f.type.isSupported = true
  · rw [if_pos hsupported]
    cases hfault : f.type.fault? with
    | some fault => simp
    | none =>
      simp only [hsupported, true_and]
      constructor
      · rintro ⟨c, hc⟩
        obtain ⟨cells, hcells, -⟩ := Except.exists_of_map_eq_ok hc
        exact ⟨cells, hcells⟩
      · rintro ⟨cells, hcells⟩
        exact ⟨⟨f.type, cells⟩, by rw [hcells]; rfl⟩
  · simp [hsupported]

/-- A column has a cell for each value. -/
theorem length_cells {cells : List Scalar} (h : f.cells values = .ok cells) :
    cells.length = values.length := by
  induction values generalizing cells with
  | nil =>
    cases h
    rfl
  | cons v values ih =>
    obtain ⟨cell, rest, rfl, -, hrest⟩ := cells_cons_eq_ok h
    rw [List.length_cons, List.length_cons, ih hrest]

/-- NULL comes into a column from NULL alone. -/
theorem null_mem_cells_iff (ht : f.type ≠ .null) {cells : List Scalar}
    (h : f.cells values = .ok cells) : Scalar.null ∈ cells ↔ Scalar.null ∈ values := by
  induction values generalizing cells with
  | nil =>
    cases h
    rfl
  | cons v values ih =>
    obtain ⟨cell, rest, rfl, hcell, hrest⟩ := cells_cons_eq_ok h
    have hpayload := (EngineType.hold?_eq_some ht hcell).1
    have hnull : cell = .null ↔ v = .null := by
      rw [← Scalar.payload_eq_null_iff, hpayload, Scalar.payload_eq_null_iff]
    rw [List.mem_cons, List.mem_cons, ih hrest, eq_comm, hnull, eq_comm]

/-- A field that does not admit NULL refuses the column of values with a NULL among them. -/
theorem refusesNull_eq_false_iff (ht : f.type ≠ .null) (h : f.column values = .ok c) :
    f.refusesNull c = false ↔ (f.nullable = false → Scalar.null ∉ values) := by
  obtain ⟨cells, hcells, rfl⟩ := column_eq_ok h
  have hcount : 0 < BatchColumn.nullCount ⟨f.type, cells⟩ ↔ Scalar.null ∈ values := by
    rw [BatchColumn.nullCount_pos_iff, null_mem_cells_iff ht hcells]
  cases hnullable : f.nullable <;> simp [refusesNull, hnullable, ht, ← hcount]

end Field

/-! ### The fields of a row -/

/-- What is asked of the values of rows at their fields is asked of the first value of every row at
the first field, and of the tails of the rows at the other fields. -/
theorem forall_zip_cons_iff {P : Field × Scalar → Prop} {f : Field} {fields : List Field}
    {rows : List (List Scalar)} (hwidth : ∀ row ∈ rows, row.length = (f :: fields).length) :
    (∀ row ∈ rows, ∀ p ∈ (f :: fields).zip row, P p) ↔
      (∀ v ∈ rows.map (fun row => row.headD .null), P (f, v)) ∧
        ∀ row ∈ rows.map List.tail, ∀ p ∈ fields.zip row, P p := by
  have hsplit : ∀ row ∈ rows, (∀ p ∈ (f :: fields).zip row, P p) ↔
      P (f, row.headD .null) ∧ ∀ p ∈ fields.zip row.tail, P p := by
    intro row hrow
    have hlength := hwidth row hrow
    cases row with
    | nil => cases hlength
    | cons v row => rw [List.zip_cons_cons, List.forall_mem_cons, List.headD_cons, List.tail_cons]
  rw [List.forall_mem_map, List.forall_mem_map]
  constructor
  · intro h
    exact ⟨fun row hrow => ((hsplit row hrow).mp (h row hrow)).1,
      fun row hrow => ((hsplit row hrow).mp (h row hrow)).2⟩
  · rintro ⟨hheads, htails⟩ row hrow
    exact (hsplit row hrow).mpr ⟨hheads row hrow, htails row hrow⟩

/-- The tails of rows have a value less. -/
theorem length_tails {f : Field} {fields : List Field} {rows : List (List Scalar)}
    (hwidth : ∀ row ∈ rows, row.length = (f :: fields).length) :
    ∀ row ∈ rows.map List.tail, row.length = fields.length := by
  intro row hrow
  obtain ⟨whole, hwhole, rfl⟩ := List.mem_map.mp hrow
  rw [List.length_tail, hwidth whole hwhole, List.length_cons, Nat.add_sub_cancel]

/-- Rows of which a batch of the schema can be put together. -/
structure Schema.Fits (schema : Schema) (rows : List (List Scalar)) : Prop where
  widths : ∀ row ∈ rows, row.length = schema.fields.length
  types : ∀ f ∈ schema.fields, f.type.IsColumn
  /-- A value is NULL or of the variant that the type of its field has. -/
  values : ∀ row ∈ rows, ∀ p ∈ schema.fields.zip row,
    p.2 = .null ∨ p.2.type.variant = p.1.type.variant
  /-- NULL stands only where its field admits it. -/
  required : ∀ row ∈ rows, ∀ p ∈ schema.fields.zip row, p.1.nullable = false → p.2 ≠ .null

namespace RecordBatch

/-- The value of the batch at a row and a column. -/
def cell? (b : RecordBatch) (i j : Nat) : Option Scalar := b.columns[j]?.bind fun c => c.cells[i]?

section Columns

variable {fields : List Field} {rows : List (List Scalar)} {columns : List BatchColumn}

/-- **Columns of rows** can be built if their types have columns and the values are of their
kinds. -/
theorem exists_columnsOf_iff (ht : ∀ f ∈ fields, f.type ≠ .null)
    (hwidth : ∀ row ∈ rows, row.length = fields.length) :
    (∃ columns, columnsOf fields rows = .ok columns) ↔
      (∀ f ∈ fields, f.type.IsColumn) ∧
        ∀ row ∈ rows, ∀ p ∈ fields.zip row, p.2 = .null ∨ p.2.type.variant = p.1.type.variant := by
  induction fields generalizing rows with
  | nil => simp [columnsOf]
  | cons f fields ih =>
    obtain ⟨hf, ht⟩ := List.forall_mem_cons.mp ht
    have hhead := @Field.exists_column_iff f (rows.map fun row => row.headD .null) hf
    have htail := ih ht (length_tails hwidth)
    rw [List.forall_mem_cons, forall_zip_cons_iff hwidth]
    constructor
    · rintro ⟨columns, h⟩
      obtain ⟨column, rest, -, hcolumn, hrest⟩ := columnsOf_cons_eq_ok h
      obtain ⟨htype, hvalues⟩ := hhead.mp ⟨column, hcolumn⟩
      obtain ⟨htypes, hothers⟩ := htail.mp ⟨rest, hrest⟩
      exact ⟨⟨htype, htypes⟩, hvalues, hothers⟩
    · rintro ⟨⟨htype, htypes⟩, hvalues, hothers⟩
      obtain ⟨column, hcolumn⟩ := hhead.mpr ⟨htype, hvalues⟩
      obtain ⟨rest, hrest⟩ := htail.mpr ⟨htypes, hothers⟩
      exact ⟨column :: rest, by rw [columnsOf, hcolumn, hrest]; rfl⟩

/-- No field refuses its column just when NULL stands only where its field admits it. -/
theorem forall_refusesNull_iff (ht : ∀ f ∈ fields, f.type ≠ .null)
    (hwidth : ∀ row ∈ rows, row.length = fields.length)
    (h : columnsOf fields rows = .ok columns) :
    (∀ p ∈ fields.zip columns, p.1.refusesNull p.2 = false) ↔
      ∀ row ∈ rows, ∀ p ∈ fields.zip row, p.1.nullable = false → p.2 ≠ .null := by
  induction fields generalizing rows columns with
  | nil => simp
  | cons f fields ih =>
    obtain ⟨hf, ht⟩ := List.forall_mem_cons.mp ht
    obtain ⟨column, rest, rfl, hcolumn, hrest⟩ := columnsOf_cons_eq_ok h
    rw [List.zip_cons_cons, List.forall_mem_cons, forall_zip_cons_iff hwidth,
      ih ht (length_tails hwidth) hrest, Field.refusesNull_eq_false_iff hf hcolumn]
    refine and_congr_left' ⟨fun h v hv hnullable hnull => ?_, fun h hnullable hmem => ?_⟩
    · exact h hnullable (hnull ▸ hv)
    · exact h .null hmem hnullable rfl

/-- The columns have the types of the fields, and a cell for each row. -/
theorem columns_eq (h : columnsOf fields rows = .ok columns) :
    columns.map (·.type) = fields.map (·.type) ∧ ∀ c ∈ columns, c.cells.length = rows.length := by
  induction fields generalizing rows columns with
  | nil =>
    cases h
    exact ⟨rfl, nofun⟩
  | cons f fields ih =>
    obtain ⟨column, rest, rfl, hcolumn, hrest⟩ := columnsOf_cons_eq_ok h
    obtain ⟨cells, hcells, rfl⟩ := Field.column_eq_ok hcolumn
    obtain ⟨htypes, hlengths⟩ := ih hrest
    rw [List.map_cons, List.map_cons, htypes, List.forall_mem_cons]
    refine ⟨rfl, ?_, ?_⟩
    · rw [Field.length_cells hcells, List.length_map]
    · intro c hc
      rw [hlengths c hc, List.length_map]

/-- A value is found in the column of its field, at its row. -/
theorem getElem?_columnsOf {row : List Scalar} {f : Field} {v : Scalar} {i j : Nat}
    (h : columnsOf fields rows = .ok columns) (hrow : rows[i]? = some row)
    (hf : fields[j]? = some f) (hv : row[j]? = some v) :
    ∃ cell, f.type.hold? v = some cell ∧ (columns[j]?.bind fun c => c.cells[i]?) = some cell := by
  induction fields generalizing rows columns row j with
  | nil => cases hf
  | cons first fields ih =>
    obtain ⟨column, rest, rfl, hcolumn, hrest⟩ := columnsOf_cons_eq_ok h
    cases row with
    | nil => cases hv
    | cons w row =>
      cases j with
      | zero =>
        cases hf
        cases hv
        obtain ⟨cells, hcells, rfl⟩ := Field.column_eq_ok hcolumn
        have hhead : (rows.map fun row => row.headD .null)[i]? = some v := by simp [hrow]
        obtain ⟨cell, hcell, hget⟩ := Field.getElem?_cells hcells hhead
        exact ⟨cell, hcell, by simp [hget]⟩
      | succ j =>
        have htail : (rows.map List.tail)[i]? = some row := by simp [hrow]
        simpa using ih hrest htail hf hv

end Columns

variable {schema : Schema} {rows : List (List Scalar)} {b : RecordBatch}

/-- **A batch is put together** if its rows have the width of the schema, their columns can be built
and no field refuses its column. -/
theorem exists_ofRows_iff (hne : schema.fields ≠ []) : (∃ b, ofRows schema rows = .ok b) ↔
    (∀ row ∈ rows, row.length = schema.fields.length) ∧
      ∃ columns, columnsOf schema.fields rows = .ok columns ∧
        ∀ p ∈ schema.fields.zip columns, p.1.refusesNull p.2 = false := by
  have hwidth : ¬ schema.fields.length = 0 := by simpa using hne
  unfold ofRows
  dsimp only
  rw [if_neg hwidth]
  cases hfind : rows.find? fun row => row.length != schema.fields.length with
  | some row =>
    have hrow := List.find?_some hfind
    have hmem := List.mem_of_find?_eq_some hfind
    simp only [reduceCtorEq, exists_false, false_iff]
    rintro ⟨hwidths, -⟩
    simp [hwidths row hmem] at hrow
  | none =>
    have hwidths : ∀ row ∈ rows, row.length = schema.fields.length := by simpa using hfind
    constructor
    · rintro ⟨b, h⟩
      obtain ⟨columns, hcolumns, h⟩ := Except.bind_eq_ok_iff.mp h
      refine ⟨hwidths, columns, hcolumns, ?_⟩
      split at h
      · cases h
      · next hnone => simpa using hnone
    · rintro ⟨-, columns, hcolumns, hadmits⟩
      refine ⟨⟨rows.length, columns⟩, Except.bind_eq_ok_iff.mpr ⟨columns, hcolumns, ?_⟩⟩
      split
      · next p _ hrefused =>
        have hadmitted := hadmits _ (List.mem_of_find?_eq_some hrefused)
        exact absurd (List.find?_some hrefused) (by simp [hadmitted])
      · rfl

/-- **The cell of a value** is the value as its column holds it. -/
theorem cell?_ofRows (h : ofRows schema rows = .ok b) {i j : Nat} {row : List Scalar} {f : Field}
    {v : Scalar} (hrow : rows[i]? = some row) (hf : schema.fields[j]? = some f)
    (hv : row[j]? = some v) : ∃ cell, f.type.hold? v = some cell ∧ b.cell? i j = some cell :=
  getElem?_columnsOf (ofRows_eq_ok h).2.1 hrow hf hv

end RecordBatch

/-- **Rows make a batch just when they fit.** -/
theorem Schema.exists_ofRows_iff_fits {schema : Schema} {rows : List (List Scalar)}
    (hne : schema.fields ≠ []) (ht : ∀ f ∈ schema.fields, f.type ≠ .null) :
    (∃ b, RecordBatch.ofRows schema rows = .ok b) ↔ schema.Fits rows := by
  rw [RecordBatch.exists_ofRows_iff hne]
  constructor
  · rintro ⟨hwidths, columns, hcolumns, hadmits⟩
    obtain ⟨htypes, hvalues⟩ := (RecordBatch.exists_columnsOf_iff ht hwidths).mp ⟨columns, hcolumns⟩
    exact ⟨hwidths, htypes, hvalues,
      (RecordBatch.forall_refusesNull_iff ht hwidths hcolumns).mp hadmits⟩
  · rintro ⟨hwidths, htypes, hvalues, hrequired⟩
    obtain ⟨columns, hcolumns⟩ :=
      (RecordBatch.exists_columnsOf_iff ht hwidths).mpr ⟨htypes, hvalues⟩
    exact ⟨hwidths, columns, hcolumns,
      (RecordBatch.forall_refusesNull_iff ht hwidths hcolumns).mpr hrequired⟩

/-- **The assembly of a batch.**  For a schema without fields of the type of nulls: rows make a batch
just when the schema has no fields or they fit it.  The batch has the rows' number and the fields'
types, and at each row and field there is the value that stands there in the rows: NULL for NULL and
for nothing else, and with the same payload. -/
theorem record_batch_assembly (schema : Schema) (rows : List (List Scalar))
    (ht : ∀ f ∈ schema.fields, f.type ≠ .null) :
    ((∃ b, RecordBatch.ofRows schema rows = .ok b) ↔ schema.fields = [] ∨ schema.Fits rows) ∧
      ∀ b, RecordBatch.ofRows schema rows = .ok b →
        b.rowCount = rows.length ∧
        b.columns.map (·.type) = schema.fields.map (·.type) ∧
        (∀ c ∈ b.columns, c.cells.length = rows.length) ∧
        ∀ i j row v, rows[i]? = some row → j < schema.fields.length → row[j]? = some v →
          ∃ cell, b.cell? i j = some cell ∧ (cell = .null ↔ v = .null) ∧
            cell.payload = v.payload := by
  constructor
  · by_cases hne : schema.fields = []
    · have hbatch : RecordBatch.ofRows schema rows = .ok ⟨rows.length, []⟩ := by
        simp [RecordBatch.ofRows, hne]
      simp [hbatch, hne]
    · rw [Schema.exists_ofRows_iff_fits hne ht]
      simp [hne]
  · intro b h
    obtain ⟨hcount, hcolumns, -⟩ := RecordBatch.ofRows_eq_ok h
    obtain ⟨htypes, hlengths⟩ := RecordBatch.columns_eq hcolumns
    refine ⟨hcount, htypes, hlengths, fun i j row v hrow hj hv => ?_⟩
    have hf := List.getElem?_eq_getElem hj
    obtain ⟨cell, hcell, hget⟩ := RecordBatch.cell?_ofRows h hrow hf hv
    have hpayload := (EngineType.hold?_eq_some (ht _ (List.getElem_mem hj)) hcell).1
    refine ⟨cell, hget, ?_, hpayload⟩
    rw [← Scalar.payload_eq_null_iff, hpayload, Scalar.payload_eq_null_iff]

/-- Albums for sale. -/
def saleSchema : Schema :=
  .ofFields [.plain "id" (.int .int32) false, .plain "title" .utf8 true,
    .plain "price" (.decimal128 5 2) true]

/-- The second one has neither a title nor a price. -/
def saleRows : List (List Scalar) :=
  [[.int .int32 3, .utf8 "Blue", .decimal 1299 4 2], [.int .int32 5, .null, .null]]

theorem record_batch_assembly_sale :
    (∀ f ∈ saleSchema.fields, f.type ≠ .null) ∧ saleSchema.Fits saleRows ∧
      ∃ b, RecordBatch.ofRows saleSchema saleRows = .ok b ∧ b.rowCount = 2 ∧
        b.cell? 1 1 = some .null ∧
        ∃ cell, b.cell? 0 2 = some cell ∧ cell.payload = (Scalar.decimal 1299 4 2).payload := by
  have htypes : ∀ f ∈ saleSchema.fields, f.type ≠ .null := by decide
  have hsome : (RecordBatch.ofRows saleSchema saleRows).toOption.isSome := by decide +kernel
  obtain ⟨hfits, hbatches⟩ := record_batch_assembly saleSchema saleRows htypes
  cases hbatch : RecordBatch.ofRows saleSchema saleRows with
  | error e =>
    rw [hbatch] at hsome
    cases hsome
  | ok b =>
    obtain ⟨hcount, -, -, hcells⟩ := hbatches b hbatch
    obtain ⟨cell, hcell, hnull, -⟩ := hcells 1 1 _ .null rfl (by decide) rfl
    obtain ⟨price, hprice, -, hpayload⟩ := hcells 0 2 _ _ rfl (by decide) rfl
    rw [hnull.mpr rfl] at hcell
    exact ⟨htypes, (hfits.mp ⟨b, hbatch⟩).resolve_left (by decide), b, rfl, hcount, hcell,
      price, hprice, hpayload⟩

end ShardScan
