import Mathlib.Data.List.Forall2
import ShardScan.Proofs.Catalog.Paths
import ShardScan.Text.Pieces

/-!
# Segments of table paths

The path of a table is the directory of the database, a slash and the local name
of the table: its components, each made safe, with slashes between them.  No safe
component has a slash, so the local name falls apart at its slashes into exactly
these components again.  Two names therefore share a path just when they have as
many components and these agree one by one once they are made safe, and no
component leads out of the database.

## Main definitions

* `TableName.components` — the components of a name, those of its namespace first.
* `TableName.segments` — the components made safe, as they stand in a path.

## Main results

* `TableName.pieces_localName` — the parts of a local name between its slashes.
* `TableName.path_eq_localName` — a path is the database and the local name.
* `table_paths` — **which names share a path, and what the path is made of.**
-/

namespace ShardScan

namespace TableName

/-- The components of the namespace, and then the name. -/
def components (table : TableName) : List String := table.space ++ [table.name]

theorem components_ne_nil (table : TableName) : table.components ≠ [] :=
  List.append_ne_nil_of_right_ne_nil _ (List.cons_ne_nil _ _)

/-- The segments of a path: the components made safe. -/
def segments (table : TableName) : List (List Char) :=
  table.components.map fun part => (Path.safe part).toList

theorem segments_ne_nil (table : TableName) : table.segments ≠ [] := fun hnil =>
  table.components_ne_nil (List.map_eq_nil_iff.mp hnil)

theorem slash_notMem_of_mem_segments {table : TableName} {segment : List Char}
    (h : segment ∈ table.segments) : '/' ∉ segment := by
  obtain ⟨part, -, rfl⟩ := List.mem_map.mp h
  exact Path.slash_notMem_safe part

theorem toList_localName (table : TableName) :
    table.localName.toList = ['/'].intercalate table.segments := by
  rw [localName, String.toList_intercalate, List.map_map]
  rfl

/-- **A local name falls apart at its slashes into the segments.** -/
theorem pieces_localName (table : TableName) :
    Text.pieces '/' table.localName.toList = table.segments := by
  rw [toList_localName]
  exact Text.pieces_intercalate table.segments_ne_nil fun segment => slash_notMem_of_mem_segments

end TableName

/-! ### What a path is made of -/

theorem Path.toList_below (database : String) (parts : List String) :
    (below database parts).toList =
      (below database []).toList ++ parts.flatMap fun part => '/' :: (safe part).toList := by
  induction parts using List.reverseRecOn with
  | nil => rw [List.flatMap_nil, List.append_nil]
  | append_singleton parts part ih =>
    rw [below_append_singleton, toList_child, ih, List.flatMap_append, List.flatMap_singleton,
      List.append_assoc]

theorem Text.flatMap_cons_eq_intercalate {c : Char} {parts : List (List Char)} (hne : parts ≠ []) :
    parts.flatMap (c :: ·) = c :: [c].intercalate parts := by
  induction parts with
  | nil => exact absurd rfl hne
  | cons part parts ih =>
    cases parts with
    | nil => rw [List.flatMap_singleton, List.intercalate_singleton]
    | cons next rest =>
      rw [List.flatMap_cons, ih (List.cons_ne_nil _ _), List.intercalate_cons_cons,
        List.append_assoc]
      rfl

/-- **A path is the directory of the database, a slash and the local name.** -/
theorem TableName.path_eq_localName (table : TableName) (database : String) :
    table.path database = Path.below database [] ++ "/" ++ table.localName := by
  have hsegments : (table.components.flatMap fun part => '/' :: (Path.safe part).toList) =
      '/' :: ['/'].intercalate table.segments := by
    rw [← Text.flatMap_cons_eq_intercalate table.segments_ne_nil, segments, List.flatMap_map]
  rw [← String.toList_inj, path, Path.toList_below, ← components, hsegments, String.toList_append,
    String.toList_append, toList_localName, List.append_assoc]
  rfl

/-- **Paths of tables.**  Two names have one path just when they have as many components, those of
the namespace and the name, and these agree one by one once they are made safe.  The path is the
directory of the database, a slash and a local name, which falls apart at its slashes into one
segment for each component; no segment has a slash or a backslash. -/
theorem table_paths (database : String) (a b : TableName) :
    (a.path database = b.path database ↔
        List.Forall₂ (fun x y => Path.safe x = Path.safe y) a.components b.components) ∧
      a.path database = Path.below database [] ++ "/" ++ a.localName ∧
      Text.pieces '/' a.localName.toList = a.segments ∧
      ∀ segment ∈ a.segments, '/' ∉ segment ∧ '\\' ∉ segment := by
  refine ⟨?_, a.path_eq_localName database, a.pieces_localName, fun segment hsegment => ?_⟩
  · calc a.path database = b.path database
        ↔ a.localName = b.localName := by
          rw [a.path_eq_localName, b.path_eq_localName, String.append_right_inj]
      _ ↔ a.segments = b.segments := by
          refine ⟨fun hlocal => ?_, fun hsegments => ?_⟩
          · rw [← a.pieces_localName, hlocal, b.pieces_localName]
          · rw [← String.toList_inj, a.toList_localName, hsegments, b.toList_localName]
      _ ↔ _ := by
          rw [← List.forall₂_eq_eq_eq, TableName.segments, TableName.segments,
            List.forall₂_map_left_iff, List.forall₂_map_right_iff]
          simp only [String.toList_inj]
  · obtain ⟨part, -, rfl⟩ := List.mem_map.mp hsegment
    exact ⟨Path.notMem_safe (.inl rfl) part, Path.notMem_safe (.inr rfl) part⟩

/-- A slash inside a name leads to the table whose name has an underscore there, and not into a
namespace. -/
theorem table_paths_regions :
    let region : TableName := ⟨["sales"], "eu/west"⟩
    region.path "/local/" = TableName.path "/local/" ⟨["sales"], "eu_west"⟩ ∧
      region.path "/local/" ≠ TableName.path "/local/" ⟨["sales", "eu"], "west"⟩ ∧
      region.path "/local/" = "/local/sales/eu_west" ∧
      Text.pieces '/' region.localName.toList = ["sales".toList, "eu_west".toList] := by
  obtain ⟨hsame, hpath, hpieces, -⟩ :=
    table_paths "/local/" ⟨["sales"], "eu/west"⟩ ⟨["sales"], "eu_west"⟩
  obtain ⟨hdeeper, -⟩ := table_paths "/local/" ⟨["sales"], "eu/west"⟩ ⟨["sales", "eu"], "west"⟩
  refine ⟨hsame.mpr (.cons rfl (.cons (by decide) .nil)), fun h => ?_, ?_, ?_⟩
  · have hlength := (hdeeper.mp h).length_eq
    exact absurd hlength (by decide)
  · rw [hpath]
    decide
  · rw [hpieces]
    decide

end ShardScan
