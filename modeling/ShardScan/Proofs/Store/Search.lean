import ShardScan.Proofs.KeyRange.Bounds
import ShardScan.Store.Table

/-!
# Searching and sorting

The search among sorted rows halves a window until one row is left.  Behind the
window all rows lie above what is looked for, and the first row of the window
does not, unless it is the very first.

Sorting is insertion from the end of a descending list.  It needs no order on
the items themselves: a rank that the comparison does not contradict is enough
for the result to ascend by that rank.

## Main results

* `Place.of_eq_found`, `Place.of_eq_absent` — what a place says of the rows around it.
* `perm_sortAscending`, `pairwise_sortAscending` — sorting by a rank.
* `sublist_dropRepeats` — what is kept when repeated tuples are dropped.
-/

namespace ShardScan

/-! ### Places -/

namespace Place

variable {side : Tuple → Ordering} {rows : List Tuple}

/-- The rows ascend: before one that is not above what is looked for there are only lesser ones. -/
def Ascend (side : Tuple → Ordering) (rows : List Tuple) : Prop :=
  rows.Pairwise fun a b => side b ≠ .gt → side a = .lt

theorem Ascend.lt_of_lt (h : Ascend side rows) {i j : Nat} {a b : Tuple} (hij : i < j)
    (ha : rows[i]? = some a) (hb : rows[j]? = some b) (hside : side b ≠ .gt) : side a = .lt := by
  obtain ⟨hi, rfl⟩ := List.getElem?_eq_some_iff.mp ha
  obtain ⟨hj, rfl⟩ := List.getElem?_eq_some_iff.mp hb
  exact List.pairwise_iff_getElem.mp h i j hi hj hij hside

/-- A window that a search may still have: the first row is not above what is looked for, unless it
is the very first, and all rows behind the window are. -/
structure Window (side : Tuple → Ordering) (rows : List Tuple) (start size : Nat) : Prop where
  nonempty : 0 < size
  within : start + size ≤ rows.length
  first : start = 0 ∨ ∀ row, rows[start]? = some row → side row ≠ .gt
  behind : ∀ j row, start + size ≤ j → rows[j]? = some row → side row = .gt

/-- The search narrows a window to one row. -/
theorem window_narrow (hrows : Ascend side rows) {start size : Nat}
    (h : Window side rows start size) : Window side rows (narrow side rows start size) 1 := by
  induction size using Nat.strongRecOn generalizing start with
  | ind size ih =>
    unfold narrow
    split
    · next hlarge =>
      have hsmaller : size - size / 2 < size := by omega
      have hinside : start + size / 2 < rows.length := by
        have := h.within
        omega
      refine ih _ hsmaller ?_
      split
      · next habove =>
        -- The upper half goes: all rows from its first on are above.
        rw [List.getElem?_eq_getElem hinside, Option.map_some, Option.some.injEq] at habove
        refine ⟨by omega, by have := h.within; omega, h.first, ?_⟩
        intro j row hj hrow
        rcases Nat.lt_or_eq_of_le (show start + size / 2 ≤ j by omega) with hlt | rfl
        · refine Decidable.byContradiction fun hside => ?_
          rw [hrows.lt_of_lt hlt (List.getElem?_eq_getElem hinside) hrow hside] at habove
          cases habove
        · rw [List.getElem?_eq_getElem hinside, Option.some.injEq] at hrow
          subst hrow
          exact habove
      · next hbelow =>
        -- The lower half goes.
        refine ⟨by omega, by have := h.within; omega, .inr ?_, ?_⟩
        · intro row hrow hside
          rw [hrow, Option.map_some, hside] at hbelow
          exact hbelow rfl
        · intro j row hj hrow
          exact h.behind j row (by omega) hrow
    · next hsmall =>
      have hone : size = 1 := by
        have := h.nonempty
        omega
      exact hone ▸ h

theorem window_all (hne : rows ≠ []) : Window side rows 0 rows.length := by
  refine ⟨List.length_pos_iff.mpr hne, by omega, .inl rfl, ?_⟩
  intro j row hj hrow
  obtain ⟨hlt, -⟩ := List.getElem?_eq_some_iff.mp hrow
  omega

/-- A row that was found is the one looked for. -/
theorem of_eq_found {i : Nat} (h : Place.of side rows = .found i) :
    ∃ row, rows[i]? = some row ∧ side row = .eq := by
  unfold Place.of at h
  dsimp only at h
  cases hrow : rows[narrow side rows 0 rows.length]? with
  | none =>
    rw [hrow] at h
    cases h
  | some row =>
    rw [hrow, Option.map_some] at h
    cases hside : side row with
    | eq =>
      rw [hside] at h
      cases h
      exact ⟨row, hrow, hside⟩
    | lt =>
      rw [hside] at h
      cases h
    | gt =>
      rw [hside] at h
      cases h

/-- A row that was not found lies between those before and those behind its place. -/
theorem of_eq_absent (hrows : Ascend side rows) {i : Nat} (h : Place.of side rows = .absent i) :
    i ≤ rows.length ∧ (∀ row ∈ rows.take i, side row = .lt) ∧ ∀ row ∈ rows.drop i, side row = .gt := by
  by_cases hempty : rows = []
  · subst hempty
    cases h
    exact ⟨Nat.le_refl 0, nofun, nofun⟩
  have hwindow := window_narrow hrows (window_all hempty)
  unfold Place.of at h
  dsimp only at h
  generalize narrow side rows 0 rows.length = position at h hwindow
  have hinside : position < rows.length := hwindow.within
  obtain ⟨row, hrow⟩ : ∃ row, rows[position]? = some row :=
    ⟨_, List.getElem?_eq_getElem hinside⟩
  rw [hrow, Option.map_some] at h
  have hbehind : ∀ row ∈ rows.drop (position + 1), side row = .gt := by
    intro row' hrow'
    obtain ⟨j, hj⟩ := List.mem_iff_getElem?.mp hrow'
    rw [List.getElem?_drop] at hj
    exact hwindow.behind _ row' (by omega) hj
  cases hside : side row with
  | eq =>
    rw [hside] at h
    cases h
  | lt =>
    rw [hside] at h
    cases h
    refine ⟨hinside, ?_, hbehind⟩
    intro row' hrow'
    obtain ⟨j, hj⟩ := List.mem_iff_getElem?.mp hrow'
    rw [List.getElem?_take] at hj
    split at hj
    · next hle =>
      rcases Nat.lt_or_eq_of_le (Nat.le_of_lt_succ hle) with hlt | heq
      · exact hrows.lt_of_lt hlt hj hrow (by simp [hside])
      · rw [heq, hrow, Option.some.injEq] at hj
        exact hj ▸ hside
    · cases hj
  | gt =>
    rw [hside] at h
    cases h
    have hfirst := hwindow.first.resolve_right fun hnot => hnot row hrow hside
    rw [hfirst] at hrow hwindow ⊢
    refine ⟨Nat.zero_le _, by simp, ?_⟩
    intro row' hrow'
    rw [List.drop_zero] at hrow'
    obtain ⟨j, hj⟩ := List.mem_iff_getElem?.mp hrow'
    cases j with
    | zero =>
      cases hj.symm.trans hrow
      exact hside
    | succ j => exact hwindow.behind _ row' (by omega) hj

end Place

/-! ### Sorting -/

section Sorting

variable {α β : Type} [Ord β] [Std.TransOrd β] {below : α → α → Bool} {rank : α → β}

theorem perm_insertDescending (below : α → α → Bool) (a : α) (l : List α) :
    (insertDescending below a l).Perm (a :: l) := by
  induction l with
  | nil => exact .refl _
  | cons b l ih =>
    unfold insertDescending
    split
    · exact (ih.cons b).trans (.swap a b l)
    · exact .refl _

theorem mem_insertDescending {a b : α} {l : List α} :
    b ∈ insertDescending below a l ↔ b = a ∨ b ∈ l := by
  rw [(perm_insertDescending below a l).mem_iff, List.mem_cons]

/-- The comparison of two items does not contradict their ranks. -/
def Respects (below : α → α → Bool) (rank : α → β) (a b : α) : Prop :=
  if below a b then (compare (rank a) (rank b)).isLE else (compare (rank b) (rank a)).isLE

theorem respects_of_iff {a b : α} (h : below a b = true ↔ compare (rank a) (rank b) = .lt) :
    Respects below rank a b := by
  unfold Respects
  split
  · next hbelow =>
    rw [h.mp hbelow]
    rfl
  · next hnot => exact isLE_of_not_lt fun hlt => hnot (h.mpr hlt)

theorem pairwise_insertDescending {a : α} {l : List α} (ha : ∀ b ∈ l, Respects below rank a b)
    (hl : l.Pairwise fun b c => (compare (rank c) (rank b)).isLE) :
    (insertDescending below a l).Pairwise fun b c => (compare (rank c) (rank b)).isLE := by
  induction l with
  | nil => exact List.pairwise_singleton ..
  | cons b l ih =>
    obtain ⟨hfirst, hrest⟩ := List.pairwise_cons.mp hl
    have hab := ha b List.mem_cons_self
    unfold insertDescending
    split
    · next hbelow =>
      rw [Respects, if_pos hbelow] at hab
      refine List.pairwise_cons.mpr ⟨?_, ih (fun c hc => ha c (List.mem_cons_of_mem b hc)) hrest⟩
      intro c hc
      rcases mem_insertDescending.mp hc with rfl | hc
      · exact hab
      · exact hfirst c hc
    · next habove =>
      rw [Respects, if_neg habove] at hab
      refine List.pairwise_cons.mpr ⟨?_, hl⟩
      intro c hc
      rcases List.mem_cons.mp hc with rfl | hc
      · exact hab
      · exact Std.TransCmp.isLE_trans (hfirst c hc) hab

theorem perm_foldl_insertDescending (below : α → α → Bool) (l sorted : List α) :
    (l.foldl (fun sorted a => insertDescending below a sorted) sorted).Perm (l ++ sorted) := by
  induction l generalizing sorted with
  | nil => exact .refl _
  | cons a l ih =>
    rw [List.foldl_cons]
    exact (ih _).trans (((perm_insertDescending below a sorted).append_left l).trans List.perm_middle)

/-- Sorted items are the items. -/
theorem perm_sortAscending (below : α → α → Bool) (l : List α) : (sortAscending below l).Perm l := by
  have hperm := perm_foldl_insertDescending below l []
  rw [List.append_nil] at hperm
  exact (List.reverse_perm _).trans hperm

@[simp] theorem mem_sortAscending {b : α} {l : List α} : b ∈ sortAscending below l ↔ b ∈ l :=
  (perm_sortAscending below l).mem_iff

theorem pairwise_foldl_insertDescending {l sorted : List α}
    (hl : ∀ a ∈ l, ∀ b, b ∈ sorted ∨ b ∈ l → Respects below rank a b)
    (hsorted : sorted.Pairwise fun b c => (compare (rank c) (rank b)).isLE) :
    (l.foldl (fun sorted a => insertDescending below a sorted) sorted).Pairwise
      fun b c => (compare (rank c) (rank b)).isLE := by
  induction l generalizing sorted with
  | nil => exact hsorted
  | cons a l ih =>
    refine ih ?_ (pairwise_insertDescending (fun b hb => hl a List.mem_cons_self b (.inl hb)) hsorted)
    intro c hc b hb
    refine hl c (List.mem_cons_of_mem a hc) b ?_
    rcases hb with hb | hb
    · rcases mem_insertDescending.mp hb with rfl | hb
      · exact .inr List.mem_cons_self
      · exact .inl hb
    · exact .inr (List.mem_cons_of_mem a hb)

/-- Sorted items ascend by every rank that their comparison does not contradict. -/
theorem pairwise_sortAscending {l : List α} (h : ∀ a ∈ l, ∀ b ∈ l, Respects below rank a b) :
    (sortAscending below l).Pairwise fun a b => (compare (rank a) (rank b)).isLE := by
  rw [sortAscending, List.pairwise_reverse]
  refine pairwise_foldl_insertDescending ?_ .nil
  intro a ha b hb
  exact h a ha b (hb.resolve_left List.not_mem_nil)

end Sorting

theorem sublist_dropRepeats_go (last : Tuple) (l : List Tuple) : (dropRepeats.go last l).Sublist l := by
  induction l generalizing last with
  | nil => exact .slnil
  | cons t l ih =>
    unfold dropRepeats.go
    split
    · exact (ih last).cons t
    · exact (ih t).cons_cons t

theorem sublist_dropRepeats (l : List Tuple) : (dropRepeats l).Sublist l := by
  cases l with
  | nil => exact .slnil
  | cons t l => exact (sublist_dropRepeats_go t l).cons_cons t

end ShardScan
