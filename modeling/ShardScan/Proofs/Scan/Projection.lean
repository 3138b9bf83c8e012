import Mathlib.Data.List.Basic
import ShardScan.Proofs.Outcome
import ShardScan.Scan.Reader

/-!
# Rows of a block by column name

A block names its own columns.  If these are the columns that were asked for in
some order, a reader finds each of them, and what it hands over of a row are the
values that the row has under the names.

## Main definitions

* `Block.Conforms` — the block has the named columns in some order, and rows as wide as these.
* `Block.project`, `Block.projected` — a row, or every row, under some names as engine values.

## Main results

* `Reader.get_eq_ok` — what a reader hands over of a row.
-/

namespace ShardScan

namespace Block

/-- The block has the named columns in some order, and its rows are as wide as that. -/
structure Conforms (b : Block) (names : List String) : Prop where
  columns : b.columns.Perm names
  width : ∀ row ∈ b.rows, row.length = b.columns.length

/-- The values that a row of the block has under some names, as engine values. -/
def project (b : Block) (names : List String) (row : Tuple) : List Scalar :=
  names.filterMap fun name => ((b.columns.zip row).lookup name).map Value.toEngine

/-- The rows of the block under some names. -/
def projected (b : Block) (names : List String) : List (List Scalar) :=
  b.rows.map (b.project names)

/-! ### Positions of columns -/

theorem columnIndex?_of_mem {b : Block} {name : String} (h : name ∈ b.columns) :
    b.columnIndex? name = some (b.columns.idxOf name) := by
  rw [columnIndex?, List.findIdx?_eq_some_iff_findIdx_eq]
  exact ⟨List.idxOf_lt_length_of_mem h, rfl⟩

/-- A block with the named columns has each of them somewhere. -/
theorem positions_eq_ok {b : Block} {names : List String} (h : b.Conforms names) :
    b.positions names = .ok (names.map b.columns.idxOf) := by
  rw [positions, if_pos h.columns.length_eq]
  refine mapM_eq_ok ?_
  intro name hname
  rw [columnIndex?_of_mem (h.columns.mem_iff.mpr hname)]

/-- The value under a name is the one at the place of the name. -/
theorem lookup_zip {columns : List String} {row : Tuple} {name : String}
    (h : name ∈ columns) (hwidth : row.length = columns.length) :
    (columns.zip row).lookup name = row[columns.idxOf name]? := by
  induction columns generalizing row with
  | nil => cases h
  | cons column columns ih =>
    cases row with
    | nil => cases hwidth
    | cons v row =>
      rw [List.zip_cons_cons, List.lookup_cons]
      by_cases hname : name = column
      · subst hname
        simp
      · have hmem : name ∈ columns := (List.mem_cons.mp h).resolve_left hname
        have hne : (name == column) = false := by simpa using hname
        rw [hne, List.idxOf_cons_ne _ (Ne.symm hname), List.getElem?_cons_succ]
        exact ih hmem (Nat.succ.inj hwidth)

end Block

/-! ### Rows of a reader -/

theorem Reader.get_eq_ok {r : Reader} {b : Block} {names : List String} {positions : List Nat}
    {n : Nat} {row : Tuple} (hcursor : r.cursor = some ⟨b, positions, some n⟩)
    (hconforms : b.Conforms names) (hpositions : b.positions names = .ok positions)
    (hrow : b.rows[n]? = some row) : r.get = .ok (b.project names row) := by
  rw [Block.positions_eq_ok hconforms] at hpositions
  cases hpositions
  have hwidth := hconforms.width row (List.mem_of_getElem? hrow)
  have hvalue : ∀ name ∈ names, ∃ v, row[b.columns.idxOf name]? = some v ∧
      (b.columns.zip row).lookup name = some v := by
    intro name hname
    have hmem := hconforms.columns.mem_iff.mpr hname
    have hlt : b.columns.idxOf name < row.length := by
      rw [hwidth]
      exact List.idxOf_lt_length_of_mem hmem
    refine ⟨row[b.columns.idxOf name], List.getElem?_eq_getElem hlt, ?_⟩
    rw [Block.lookup_zip hmem hwidth, List.getElem?_eq_getElem hlt]
  -- No name is missing, so leaving missing names out leaves nothing out.
  let value : String → Scalar := fun name =>
    (row[b.columns.idxOf name]?.map Value.toEngine).getD .null
  have hproject : b.project names row = names.map value := by
    rw [Block.project, ← List.filterMap_eq_map]
    refine List.filterMap_congr ?_
    intro name hname
    obtain ⟨v, hv, hlookup⟩ := hvalue name hname
    simp [value, hv, hlookup]
  rw [hproject, get, hcursor]
  dsimp only
  rw [List.mapM_map]
  refine mapM_eq_ok ?_
  intro name hname
  obtain ⟨v, hv, -⟩ := hvalue name hname
  simp [value, Block.value?, Block.row?, hrow, hv]

end ShardScan
