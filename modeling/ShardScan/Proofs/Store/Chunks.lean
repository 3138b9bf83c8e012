import ShardScan.Store.Session

/-!
# Pieces of a list

A list is cut into pieces of one length, of which the last may be shorter.  No
piece is empty, and one after the other they are the list.

## Main definitions

* `Store.Cut` — how a list is cut, piece by piece.

## Main results

* `Store.cut_chunks` — the pieces are cut in this way.
* `Store.Cut.flatten`, `Store.Cut.length_mem`, `Store.Cut.length_dropLast` — what pieces there are.
-/

namespace ShardScan.Store

variable {α : Type} {size : Nat} {l : List α} {pieces : List (List α)}

/-- A list is cut into pieces of a length, of which the last may be shorter. -/
inductive Cut (size : Nat) : List α → List (List α) → Prop
  | nil : Cut size [] []
  | short {piece : List α} (hne : piece ≠ []) (hshort : piece.length < size) :
    Cut size piece [piece]
  | full {piece rest : List α} {pieces : List (List α)} (hfull : piece.length = size)
    (hrest : Cut size rest pieces) : Cut size (piece ++ rest) (piece :: pieces)

theorem chunks_nil : chunks size ([] : List α) = [] := by simp [chunks]

theorem chunks_of_ne_nil (hsize : 0 < size) (hne : l ≠ []) :
    chunks size l = l.take size :: chunks size (l.drop size) := by
  have hcut : ¬ (l.isEmpty = true ∨ size = 0) := by
    rw [List.isEmpty_iff]
    exact not_or.mpr ⟨hne, Nat.ne_of_gt hsize⟩
  rw [chunks, dif_neg hcut]

/-- **The pieces are cut in this way.** -/
theorem cut_chunks (hsize : 0 < size) (l : List α) : Cut size l (chunks size l) := by
  induction hlength : l.length using Nat.strongRecOn generalizing l with
  | ind n ih =>
    subst hlength
    by_cases hnil : l = []
    · rw [hnil, chunks_nil]
      exact .nil
    rw [chunks_of_ne_nil hsize hnil]
    -- A list that is too short for a whole piece is a piece itself; of any other less is left.
    rcases Nat.lt_or_ge l.length size with hshort | hlong
    · rw [List.take_of_length_le (Nat.le_of_lt hshort),
        List.drop_of_length_le (Nat.le_of_lt hshort), chunks_nil]
      exact .short hnil hshort
    · have hrest : (l.drop size).length < l.length := by
        rw [List.length_drop]
        omega
      have hcut := Cut.full (List.length_take_of_le hlong) (ih _ hrest (l.drop size) rfl)
      rwa [List.take_append_drop] at hcut

theorem Cut.flatten (h : Cut size l pieces) : pieces.flatten = l := by
  induction h with
  | nil => rfl
  | short => exact List.append_nil _
  | full _ _ ih => rw [List.flatten_cons, ih]

theorem Cut.length_mem (h : Cut size l pieces) (hsize : 0 < size) :
    ∀ piece ∈ pieces, 0 < piece.length ∧ piece.length ≤ size := by
  induction h with
  | nil => exact nofun
  | short hne hshort =>
    exact List.forall_mem_singleton.mpr ⟨List.length_pos_iff.mpr hne, Nat.le_of_lt hshort⟩
  | full hfull _ ih => exact List.forall_mem_cons.mpr ⟨⟨hfull ▸ hsize, Nat.le_of_eq hfull⟩, ih⟩

/-- None but the last piece is shorter. -/
theorem Cut.length_dropLast (h : Cut size l pieces) :
    ∀ piece ∈ pieces.dropLast, piece.length = size := by
  induction h with
  | nil => exact nofun
  | short => exact nofun
  | @full piece rest pieces hfull _ ih =>
    cases pieces with
    | nil => exact nofun
    | cons next pieces => exact List.forall_mem_cons.mpr ⟨hfull, ih⟩

end ShardScan.Store
