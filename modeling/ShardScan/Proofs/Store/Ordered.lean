import ShardScan.Proofs.Store.Columns
import ShardScan.Proofs.Store.Search
import ShardScan.Store.Scheme

/-!
# Rows in order

The rows of a table are in strictly ascending order of their keys, so that each
key has one row at most and the search among them finds it.  Putting a row in
divides the others into those before it, those with its key and those behind it;
the row takes the place of those with its key, of which there is one at most.

This asks nothing of the split points, and of a floating-point column in the key
only that it is NULL in every row.

## Main definitions

* `Table.Ordered` — the rows of a table are in order.
* `Table.taken` — the rows that an insertion takes in: those before the first of a wrong width.
* `Table.rowOf?`, `Table.overlay` — the row of a key, and what becomes of it where a further row is
  laid over the others.

## Main results

* `Table.insertRows_cases` — how an insertion goes.
* `Table.Ordered.insertRows`, `Table.Ordered.alter` — what operations on a table keep.
* `Table.Ordered.rowOf?_insertRows` — rows put in are laid over the others, one after the other.
-/

namespace ShardScan

/-! ### Whole keys of a table -/

namespace Tuple

variable {types : List StoreType} {key : Tuple}

theorem IsKey.isFullKey (h : IsKey key types) : key.IsFullKey types := by
  refine ⟨?_, (List.Forall₂.length_eq h).symm⟩
  intro p hp
  exact StoreType.AdmitsKey.admits ((List.forall₂_iff_zip.mp h).2 hp)

theorem IsFullKey.isKey (h : key.IsFullKey types) (htypes : ∀ t ∈ types, t.IsRanked) :
    key.IsKey types := by
  refine List.forall₂_iff_zip.mpr ⟨h.length.symm, ?_⟩
  intro type v hmem
  exact StoreType.Admits.admitsKey (h.fits (type, v) hmem) (htypes type (List.of_mem_zip hmem).1)

end Tuple

namespace Table

/-- The rows of a table are in order: each has a value under every column, the key columns are
among the columns, and the keys ascend. -/
structure Ordered (t : Table) : Prop where
  described : t.layout.KeyDescribed
  width : ∀ row ∈ t.rows, row.length = t.layout.columns.length
  keys : ∀ row ∈ t.rows, (t.key row).IsKey t.layout.keyTypes
  ascend : t.rows.Pairwise fun a b => compareKeys (t.key a) (t.key b) = .lt

theorem ordered_empty {path : String} {layout : TableLayout}
    (hfault : Store.layoutFault? path layout = none) : Ordered (.empty layout) where
  described := (TableLayout.layoutFault?_eq_none_iff.mp hfault).2.1
  width := nofun
  keys := nofun
  ascend := .nil

/-! ### A row put in -/

theorem insertIdx_eq_take_append_drop {α : Type} {l : List α} {i : Nat} (h : i ≤ l.length) (a : α) :
    l.insertIdx i a = l.take i ++ a :: l.drop i := by
  induction l generalizing i with
  | nil =>
    cases Nat.le_zero.mp h
    rfl
  | cons b l ih =>
    cases i with
    | zero => rfl
    | succ i => rw [List.insertIdx_succ_cons, ih (Nat.le_of_succ_le_succ h), List.take_succ_cons,
        List.drop_succ_cons, List.cons_append]

/-- What a row put in changes: only the rows. -/
theorem insertRow_eq (t : Table) (row : Tuple) :
    t.insertRow row = { t with rows := (t.insertRow row).rows } := by
  unfold insertRow
  dsimp only
  split <;> rfl

theorem insertRow_of_found {t : Table} {row : Tuple} {i : Nat}
    (hplace : Place.of (fun probe => compareKeys (t.key probe) (t.key row)) t.rows = .found i)
    (hi : i < t.rows.length) :
    (t.insertRow row).rows = t.rows.take i ++ row :: t.rows.drop (i + 1) := by
  simp only [insertRow, hplace]
  rw [List.set_eq_take_append_cons_drop, if_pos hi]

theorem insertRow_of_absent {t : Table} {row : Tuple} {i : Nat}
    (hplace : Place.of (fun probe => compareKeys (t.key probe) (t.key row)) t.rows = .absent i)
    (hi : i ≤ t.rows.length) : (t.insertRow row).rows = t.rows.take i ++ row :: t.rows.drop i := by
  simp only [insertRow, hplace]
  exact insertIdx_eq_take_append_drop hi row

/-- The rows around a row that was put in: those before it, those whose place it took and those
behind it. -/
structure Around (t : Table) (row : Tuple) (before same behind : List Tuple) : Prop where
  rows : t.rows = before ++ same ++ behind
  inserted : (t.insertRow row).rows = before ++ row :: behind
  lt : ∀ r ∈ before, compareKeys (t.key r) (t.key row) = .lt
  eq : ∀ r ∈ same, compareKeys (t.key r) (t.key row) = .eq
  gt : ∀ r ∈ behind, compareKeys (t.key r) (t.key row) = .gt

variable {t : Table} {row : Tuple}

/-- In a table that is in order every row with a whole key finds its place. -/
theorem Ordered.around (h : t.Ordered) (hkey : (t.key row).IsKey t.layout.keyTypes) :
    ∃ before same behind, t.Around row before same behind := by
  have hrank : ∀ r ∈ t.rows,
      compareKeys (t.key r) (t.key row) = compare (t.key r).ranks (t.key row).ranks :=
    fun r hr => compareKeys_eq_of_isKey (h.keys r hr) hkey
  have hpairs : t.rows.Pairwise fun a b => compare (t.key a).ranks (t.key b).ranks = .lt := by
    refine h.ascend.imp_of_mem ?_
    intro a b ha hb hlt
    rwa [compareKeys_eq_of_isKey (h.keys a ha) (h.keys b hb)] at hlt
  cases hplace : Place.of (fun probe => compareKeys (t.key probe) (t.key row)) t.rows with
  | found i =>
    obtain ⟨old, hold, heq⟩ := Place.of_eq_found hplace
    obtain ⟨hi, rfl⟩ := List.getElem?_eq_some_iff.mp hold
    have hsplit : t.rows = t.rows.take i ++ t.rows[i] :: t.rows.drop (i + 1) := by
      rw [← List.drop_eq_getElem_cons hi, List.take_append_drop]
    have hranks := Std.LawfulEqOrd.eq_of_compare ((hrank _ (List.getElem_mem hi)).symm.trans heq)
    rw [hsplit, List.pairwise_append, List.pairwise_cons] at hpairs
    obtain ⟨-, ⟨hbehind, -⟩, hbefore⟩ := hpairs
    refine ⟨t.rows.take i, [t.rows[i]], t.rows.drop (i + 1), ?_, insertRow_of_found hplace hi,
      ?_, ?_, ?_⟩
    · rw [List.append_assoc, List.singleton_append]
      exact hsplit
    · intro r hr
      rw [hrank r (List.mem_of_mem_take hr), ← hranks]
      exact hbefore r hr _ List.mem_cons_self
    · intro r hr
      rw [List.mem_singleton.mp hr]
      exact heq
    · intro r hr
      rw [hrank r (List.mem_of_mem_drop hr), ← hranks, Std.OrientedCmp.gt_iff_lt]
      exact hbehind r hr
  | absent i =>
    have hascend : Place.Ascend (fun probe => compareKeys (t.key probe) (t.key row)) t.rows := by
      refine hpairs.imp_of_mem ?_
      intro a b ha hb hab hnot
      dsimp only at hnot ⊢
      rw [hrank b hb] at hnot
      rw [hrank a ha]
      exact Std.TransCmp.lt_of_lt_of_isLE hab (Ordering.isLE_iff_ne_gt.mpr hnot)
    obtain ⟨hi, hbefore, hbehind⟩ := Place.of_eq_absent hascend hplace
    refine ⟨t.rows.take i, [], t.rows.drop i, ?_, insertRow_of_absent hplace hi, hbefore, nofun,
      hbehind⟩
    rw [List.append_nil, List.take_append_drop]

/-- The rows behind a row put in are the row itself and those with another key. -/
theorem Around.mem_insertRow {before same behind : List Tuple} (h : t.Around row before same behind)
    {r : Tuple} : r ∈ (t.insertRow row).rows ↔
      r = row ∨ r ∈ t.rows ∧ compareKeys (t.key r) (t.key row) ≠ .eq := by
  rw [h.inserted, h.rows, List.append_assoc]
  simp only [List.mem_append, List.mem_cons]
  constructor
  · rintro (hr | rfl | hr)
    · exact .inr ⟨.inl hr, by simp [h.lt r hr]⟩
    · exact .inl rfl
    · exact .inr ⟨.inr (.inr hr), by simp [h.gt r hr]⟩
  · rintro (rfl | ⟨hr | hr | hr, hne⟩)
    · exact .inr (.inl rfl)
    · exact .inl hr
    · exact absurd (h.eq r hr) hne
    · exact .inr (.inr hr)

/-- A row put in is in its place. -/
theorem Ordered.insertRow (h : t.Ordered) (hwidth : row.length = t.layout.columns.length)
    (hkey : (t.key row).IsKey t.layout.keyTypes) : (t.insertRow row).Ordered := by
  obtain ⟨before, same, behind, haround⟩ := h.around hkey
  have hmem : ∀ r ∈ (t.insertRow row).rows, r = row ∨ r ∈ t.rows :=
    fun r hr => (haround.mem_insertRow.mp hr).imp_right And.left
  have hascend : (before ++ row :: behind).Pairwise fun a b =>
      compareKeys (t.key a) (t.key b) = .lt := by
    have hkeys : ∀ r ∈ before ++ same ++ behind, (t.key r).IsKey t.layout.keyTypes := by
      rw [← haround.rows]
      exact h.keys
    have hpairs := h.ascend
    rw [haround.rows, List.append_assoc, List.pairwise_append, List.pairwise_append] at hpairs
    obtain ⟨hbefore, ⟨-, hbehind, -⟩, hcross⟩ := hpairs
    rw [List.pairwise_append, List.pairwise_cons]
    refine ⟨hbefore, ⟨?_, hbehind⟩, ?_⟩
    · intro r hr
      have hgt := haround.gt r hr
      have hkeyr := hkeys r (List.mem_append_right _ hr)
      rw [compareKeys_eq_of_isKey hkeyr hkey, Std.OrientedCmp.gt_iff_lt] at hgt
      rwa [compareKeys_eq_of_isKey hkey hkeyr]
    · intro a ha b hb
      rcases List.mem_cons.mp hb with rfl | hb
      · exact haround.lt a ha
      · exact hcross a ha b (List.mem_append_right _ hb)
  rw [insertRow_eq]
  refine { described := h.described, width := ?_, keys := ?_, ascend := ?_ }
  · intro r hr
    rcases hmem r hr with rfl | hr
    · exact hwidth
    · exact h.width r hr
  · intro r hr
    rcases hmem r hr with rfl | hr
    · exact hkey
    · exact h.keys r hr
  · show (t.insertRow row).rows.Pairwise _
    rw [haround.inserted]
    exact hascend

/-! ### Rows put in one after the other -/

/-- Rows put in change the rows only. -/
theorem foldl_insertRow_eq (t : Table) (rows : List Tuple) :
    rows.foldl insertRow t = { t with rows := (rows.foldl insertRow t).rows } := by
  induction rows generalizing t with
  | nil => rfl
  | cons row rows ih =>
    rw [List.foldl_cons, ih, insertRow_eq]

/-- The error of an insertion that comes to a row of a wrong width. -/
def wrongWidth (t : Table) (row : Tuple) : StoreError :=
  .of "insert rows" .badRequest
    ("Expected " ++ toString t.layout.columns.length ++ " values, got " ++ toString row.length)

variable {rows : List Tuple}

/-- Rows of the right width are put in, and those behind them after them. -/
theorem insertRows_append (h : ∀ row ∈ rows, row.length = t.layout.columns.length)
    (behind : List Tuple) :
    t.insertRows (rows ++ behind) = (rows.foldl insertRow t).insertRows behind := by
  induction rows generalizing t with
  | nil => rfl
  | cons row rows ih =>
    obtain ⟨hrow, hrows⟩ := List.forall_mem_cons.mp h
    rw [List.cons_append, insertRows, if_pos hrow, List.foldl_cons]
    refine ih ?_
    rw [insertRow_eq]
    exact hrows

theorem insertRows_of_width (h : ∀ row ∈ rows, row.length = t.layout.columns.length) :
    t.insertRows rows = (.ok (), rows.foldl insertRow t) := by
  have hrows := insertRows_append h []
  rwa [List.append_nil] at hrows

theorem insertRows_of_ne (h : row.length ≠ t.layout.columns.length) (behind : List Tuple) :
    t.insertRows (row :: behind) = (.error (t.wrongWidth row), t) := by
  rw [insertRows, if_neg h]
  rfl

/-- Rows put in leave the width as it was, and so the error that a row is turned down with. -/
theorem insertRows_foldl_of_ne (h : row.length ≠ t.layout.columns.length) (behind : List Tuple) :
    (rows.foldl insertRow t).insertRows (row :: behind) =
      (.error (t.wrongWidth row), rows.foldl insertRow t) := by
  have hlayout : (rows.foldl insertRow t).layout = t.layout := by rw [foldl_insertRow_eq]
  have hne : row.length ≠ (rows.foldl insertRow t).layout.columns.length := by rwa [hlayout]
  rw [insertRows_of_ne hne, wrongWidth, hlayout]
  rfl

/-- The rows that an insertion takes in: those before the first of a wrong width. -/
def taken (t : Table) (rows : List Tuple) : List Tuple :=
  rows.takeWhile fun row => row.length = t.layout.columns.length

theorem length_of_mem_taken (h : row ∈ t.taken rows) :
    row.length = t.layout.columns.length := by
  simpa using List.all_eq_true.mp List.all_takeWhile row h

/-- **How an insertion goes.**  It takes all rows in, or it comes to the first of a wrong width. -/
theorem insertRows_cases (t : Table) (rows : List Tuple) :
    t.taken rows = rows ∧ t.insertRows rows = (.ok (), rows.foldl insertRow t) ∨
      ∃ row behind, rows = t.taken rows ++ row :: behind ∧
        row.length ≠ t.layout.columns.length ∧
        t.insertRows rows = (.error (t.wrongWidth row), (t.taken rows).foldl insertRow t) := by
  have hwidth : ∀ row ∈ t.taken rows, row.length = t.layout.columns.length :=
    fun _ => length_of_mem_taken
  have hrows : rows = t.taken rows ++ rows.dropWhile fun row =>
      row.length = t.layout.columns.length := List.takeWhile_append_dropWhile.symm
  cases hbehind : rows.dropWhile fun row => row.length = t.layout.columns.length with
  | nil =>
    rw [hbehind, List.append_nil] at hrows
    rw [← hrows] at hwidth
    exact .inl ⟨hrows.symm, insertRows_of_width hwidth⟩
  | cons row behind =>
    have hne : row.length ≠ t.layout.columns.length := by
      have hhead :=
        List.head?_dropWhile_not (fun row => row.length = t.layout.columns.length) rows
      simpa [hbehind] using hhead
    rw [hbehind] at hrows
    refine .inr ⟨row, behind, hrows, hne, ?_⟩
    rw [← insertRows_foldl_of_ne hne behind, ← insertRows_append hwidth, ← hrows]

theorem insertRows_snd (t : Table) (rows : List Tuple) :
    (t.insertRows rows).2 = (t.taken rows).foldl insertRow t := by
  rcases t.insertRows_cases rows with ⟨htaken, heq⟩ | ⟨row, behind, -, -, heq⟩
  · rw [heq, htaken]
  · rw [heq]

/-- An insertion that succeeds takes all rows in. -/
theorem taken_eq_of_insertRows (h : (t.insertRows rows).1 = .ok ()) : t.taken rows = rows := by
  rcases t.insertRows_cases rows with ⟨htaken, -⟩ | ⟨row, behind, -, -, heq⟩
  · exact htaken
  · rw [heq] at h
    cases h

theorem Ordered.foldl_insertRow (h : t.Ordered) {rows : List Tuple}
    (hrows : ∀ row ∈ rows, row.length = t.layout.columns.length ∧
      (t.key row).IsKey t.layout.keyTypes) : (rows.foldl Table.insertRow t).Ordered := by
  induction rows generalizing t with
  | nil => exact h
  | cons row rows ih =>
    obtain ⟨⟨hwidth, hkey⟩, hrest⟩ := List.forall_mem_cons.mp hrows
    refine ih (h.insertRow hwidth hkey) ?_
    rw [insertRow_eq]
    exact hrest

/-- **Rows put in are in their places**, also where the insertion ends early. -/
theorem Ordered.insertRows (h : t.Ordered) {rows : List Tuple}
    (hrows : ∀ row ∈ t.taken rows, (t.key row).IsKey t.layout.keyTypes) :
    (t.insertRows rows).2.Ordered := by
  rw [insertRows_snd]
  exact h.foldl_insertRow fun row hrow => ⟨length_of_mem_taken hrow, hrows row hrow⟩

/-! ### The row of a key -/

/-- The row of a key. -/
def rowOf? (t : Table) (key : Tuple) : Option Tuple :=
  t.rows.find? fun row => compareKeys (t.key row) key = .eq

/-- The rows of keys with one more row laid over them: it is that of its own key. -/
def overlay (t : Table) (rows : Tuple → Option Tuple) (row : Tuple) : Tuple → Option Tuple :=
  fun key => if compareKeys (t.key row) key = .eq then some row else rows key

/-- The row of a key is the only one with that key. -/
theorem Ordered.rowOf?_eq_some_iff (h : t.Ordered) {key : Tuple}
    (hkey : key.IsKey t.layout.keyTypes) {r : Tuple} :
    t.rowOf? key = some r ↔ r ∈ t.rows ∧ compareKeys (t.key r) key = .eq := by
  have hrank : ∀ r ∈ t.rows, compareKeys (t.key r) key = compare (t.key r).ranks key.ranks :=
    fun r hr => compareKeys_eq_of_isKey (h.keys r hr) hkey
  constructor
  · intro hfind
    exact ⟨List.mem_of_find?_eq_some hfind, by simpa using List.find?_some hfind⟩
  · rintro ⟨hr, heq⟩
    obtain ⟨before, behind, hrows⟩ := List.append_of_mem hr
    rw [rowOf?, List.find?_eq_some_iff_append]
    refine ⟨by simpa using heq, before, behind, hrows, ?_⟩
    intro a ha
    have hmem : a ∈ t.rows := hrows ▸ List.mem_append_left _ ha
    have hpairs := h.ascend
    rw [hrows, List.pairwise_append] at hpairs
    have hlt := hpairs.2.2 a ha r List.mem_cons_self
    rw [compareKeys_eq_of_isKey (h.keys a hmem) (h.keys r hr)] at hlt
    -- The row lies before one of the key, so it is not one of the key itself.
    rw [hrank r hr] at heq
    rw [Std.LawfulEqOrd.eq_of_compare heq] at hlt
    rw [hrank a hmem, hlt]
    rfl

/-- A row put in is laid over the others. -/
theorem Ordered.rowOf?_insertRow (h : t.Ordered) (hwidth : row.length = t.layout.columns.length)
    (hrow : (t.key row).IsKey t.layout.keyTypes) {key : Tuple}
    (hkey : key.IsKey t.layout.keyTypes) :
    (t.insertRow row).rowOf? key = t.overlay t.rowOf? row key := by
  obtain ⟨before, same, behind, haround⟩ := h.around hrow
  have hinserted := h.insertRow hwidth hrow
  have hkeyAt : ∀ r, (t.insertRow row).key r = t.key r := by
    rw [insertRow_eq]
    exact fun r => rfl
  have hkeyIn : key.IsKey (t.insertRow row).layout.keyTypes := by
    rw [insertRow_eq]
    exact hkey
  refine Option.ext fun r => ?_
  rw [hinserted.rowOf?_eq_some_iff hkeyIn, haround.mem_insertRow, hkeyAt, overlay]
  split
  · next heq =>
    rw [compareKeys_eq_of_isKey hrow hkey] at heq
    have hranks := Std.LawfulEqOrd.eq_of_compare heq
    constructor
    · rintro ⟨rfl | ⟨hr, hne⟩, hreq⟩
      · rfl
      · rw [compareKeys_eq_of_isKey (h.keys r hr) hrow, hranks,
          ← compareKeys_eq_of_isKey (h.keys r hr) hkey] at hne
        exact absurd hreq hne
    · rintro ⟨⟩
      refine ⟨.inl rfl, ?_⟩
      rw [compareKeys_eq_of_isKey hrow hkey, hranks, Std.ReflOrd.compare_self]
  · next hne =>
    rw [h.rowOf?_eq_some_iff hkey]
    constructor
    · rintro ⟨rfl | ⟨hr, -⟩, hreq⟩
      · exact absurd hreq hne
      · exact ⟨hr, hreq⟩
    · rintro ⟨hr, hreq⟩
      refine ⟨.inr ⟨hr, fun hsame => hne ?_⟩, hreq⟩
      -- Two keys that are equal to that of a row are equal.
      rw [compareKeys_eq_of_isKey (h.keys r hr) hrow] at hsame
      rw [compareKeys_eq_of_isKey (h.keys r hr) hkey] at hreq
      rw [compareKeys_eq_of_isKey hrow hkey, ← Std.LawfulEqOrd.eq_of_compare hsame]
      exact hreq

/-- What rows laid over others make of the row of a key depends on that row only. -/
theorem foldl_overlay_congr (t : Table) {rowOf rowOf' : Tuple → Option Tuple} {key : Tuple}
    (h : rowOf key = rowOf' key) (rows : List Tuple) :
    rows.foldl t.overlay rowOf key = rows.foldl t.overlay rowOf' key := by
  induction rows generalizing rowOf rowOf' with
  | nil => exact h
  | cons row rows ih =>
    refine ih ?_
    unfold overlay
    rw [h]

/-- **Rows put in are laid over the others**, one after the other. -/
theorem Ordered.rowOf?_foldl_insertRow (h : t.Ordered) {rows : List Tuple}
    (hrows : ∀ row ∈ rows, row.length = t.layout.columns.length ∧
      (t.key row).IsKey t.layout.keyTypes) {key : Tuple} (hkey : key.IsKey t.layout.keyTypes) :
    (rows.foldl Table.insertRow t).rowOf? key = rows.foldl t.overlay t.rowOf? key := by
  induction rows generalizing t with
  | nil => rfl
  | cons row rows ih =>
    obtain ⟨⟨hwidth, hrow⟩, hrest⟩ := List.forall_mem_cons.mp hrows
    have hinserted := h.rowOf?_insertRow hwidth hrow hkey
    have hordered := h.insertRow hwidth hrow
    -- The layout, and with it what a key is, stays as it was.
    have hoverlay : (t.insertRow row).overlay = t.overlay := by
      rw [insertRow_eq]
      rfl
    rw [insertRow_eq] at hordered
    have hlater := ih hordered hrest hkey
    rw [← insertRow_eq, hoverlay] at hlater
    rw [List.foldl_cons, List.foldl_cons, hlater]
    exact foldl_overlay_congr t hinserted rows

theorem Ordered.rowOf?_insertRows (h : t.Ordered) {rows : List Tuple}
    (hsuccess : (t.insertRows rows).1 = .ok ())
    (hrows : ∀ row ∈ rows, (t.key row).IsKey t.layout.keyTypes) {key : Tuple}
    (hkey : key.IsKey t.layout.keyTypes) :
    (t.insertRows rows).2.rowOf? key = rows.foldl t.overlay t.rowOf? key := by
  have htaken := taken_eq_of_insertRows hsuccess
  rw [insertRows_snd, htaken]
  refine h.rowOf?_foldl_insertRow (fun row hrow => ⟨?_, hrows row hrow⟩) hkey
  rw [← htaken] at hrow
  exact length_of_mem_taken hrow

/-! ### Changes of columns and shards -/

/-- Rows stay in order where they are moved to a layout that carries their keys. -/
theorem Ordered.carried {t' : Table} (h : t.Ordered) (hcarried : t.Carried t') : t'.Ordered := by
  obtain ⟨move, hmove, hrows, -⟩ := hcarried
  have hkey : ∀ row ∈ t.rows, t'.key (move row) = t.key row :=
    fun row hrow => hmove.key_eq (h.width row hrow)
  refine { described := hmove.described h.described, width := ?_, keys := ?_, ascend := ?_ }
  · rw [hrows, List.forall_mem_map]
    exact fun row hrow => hmove.width row (h.width row hrow)
  · rw [hrows, List.forall_mem_map, hmove.keyTypes_eq]
    intro row hrow
    rw [hkey row hrow]
    exact h.keys row hrow
  · rw [hrows, List.pairwise_map]
    refine h.ascend.imp_of_mem ?_
    intro a b ha hb hlt
    rwa [hkey a ha, hkey b hb]

/-- **Changes keep the rows in order**, also where the last of them cannot be made. -/
theorem Ordered.alter (h : t.Ordered) (operations : List AlterOperation) :
    (t.alter operations).2.Ordered := h.carried (carried_alter h.described operations)

/-- Split points have nothing to do with the rows. -/
theorem Ordered.split (h : t.Ordered) (points : List Tuple) : (t.split points).Ordered := { h with }

end Table
end ShardScan
